import Credential.Store.Load
import Credential.Text.Quoted

/-!
# Key stores

A read-only store with a single entry: a private key and its certificate chain under an
alias. The first operation that needs the entry loads it, and the outcome of that load,
the entry or the first fault, is kept for good.

`KeyStore.perform` performs an operation: a query, which is answered from the entry, or a
change, which is always refused.
-/

namespace Credential.Store

open Calendar (Timestamp)

/-- What is known of the entry. -/
inductive State where
  | unloaded
  | loaded (entry : Entry)
  | failed (cause : LoadError)

/-- A store with its configuration. -/
structure KeyStore where
  config : Config
  protection : Protection
  state : State := .unloaded

/-- A question that the entry answers. -/
inductive Query where
  | load
  | size
  | aliases
  | containsAlias (name : String)
  | isKeyEntry (name : String)
  | isCertificateEntry (name : String)
  | creationDate (name : String)
  | getKey (name : String) (password : Option Bytes)
  | certificateChain (name : String)
  | certificate (name : String)
  | certificateAlias (certificate : X509.Certificate)

/-- A change, none of which is supported. -/
inductive Change where
  | setKeyEntry (name : String) (key : Key.PrivateKey) (chain : X509.Chain)
  | setCertificateEntry (name : String) (certificate : X509.Certificate)
  | deleteEntry (name : String)

/-- The name of a change in messages. -/
def Change.name : Change → String
  | .setKeyEntry _ _ _ => "set_key_entry"
  | .setCertificateEntry _ _ => "set_certificate_entry"
  | .deleteEntry _ => "delete_entry"

/-- An operation on a store. -/
inductive Operation where
  | query (query : Query)
  | change (change : Change)

/-- The result of an operation. -/
inductive Response where
  | done
  | count (n : Nat)
  | names (aliases : List String)
  | flag (b : Bool)
  | date (moment : Option Timestamp)
  | key (key : Option Key.PrivateKey)
  | chain (chain : Option X509.Chain)
  | certificate (certificate : Option X509.Certificate)
  | name (name : Option String)

/-- Something of the entry, if `name` is its alias. -/
def Entry.under {α : Type} (entry : Entry) (name : String) (value : α) : Option α :=
  if entry.name = name then some value else none

/-- The answer to a query from the entry. Only decoding the key again can fail. -/
def Query.answer (options : Key.Options) (entry : Entry) : Query → Outcome Error Response
  | .load => .ok .done
  | .size => .ok (.count 1)
  | .aliases => .ok (.names [entry.name])
  | .containsAlias name => .ok (.flag (entry.name == name))
  | .isKeyEntry name => .ok (.flag (entry.name == name))
  | .isCertificateEntry _ => .ok (.flag false)
  | .creationDate name => .ok (.date (entry.under name entry.createdAt))
  | .getKey name password =>
    if entry.name = name then
      ((Key.PrivateKey.ofFile entry.material password options).mapError .key).map
        fun key => .key (some key)
    else .ok (.key none)
  | .certificateChain name => .ok (.chain (entry.under name entry.chain))
  | .certificate name => .ok (.certificate (entry.under name entry.chain.leaf))
  | .certificateAlias c =>
    .ok (.name (if entry.chain.leaf.sameEncoding c then some entry.name else none))

namespace KeyStore

/-- Whether the entry is there. -/
def isLoaded (store : KeyStore) : Bool :=
  match store.state with
  | .loaded _ => true
  | _ => false

/-- The fault of every operation after a failed load. -/
def failure (store : KeyStore) (cause : LoadError) : Error :=
  .loadFailed store.config.entryAlias cause

/-- The outcome of a load and the store after it. An aborted load is kept as a failed one. -/
def settle (store : KeyStore) : Outcome LoadError Entry → Outcome Error Entry × KeyStore
  | .ok entry => (.ok entry, { store with state := .loaded entry })
  | .error cause => (.error (store.failure cause), { store with state := .failed cause })
  | .aborted => (.aborted, { store with state := .failed .aborted })

/-- The entry, which is loaded if it was not asked for before, and the store after that. -/
def entry (store : KeyStore) : Action (Outcome Error Entry × KeyStore) :=
  match store.state with
  | .loaded entry => .done (.ok entry, store)
  | .failed cause => .done (.error (store.failure cause), store)
  | .unloaded => Action.bind (fun outcome => .done (store.settle outcome))
      (loadEntry store.config store.protection)

/-- Performs an operation: its outcome and the store after it. -/
def perform (store : KeyStore) : Operation → Action (Outcome Error Response × KeyStore)
  | .query query =>
    Action.bind (fun (outcome, store) =>
      .done (outcome.bind (query.answer store.config.options), store)) store.entry
  | .change change => .done (.error (.readOnly change.name), store)

/-- The diagnostic text. -/
def describe (store : KeyStore) : String :=
  "KeyStore \x7b alias: " ++ Text.Quoted.text store.config.entryAlias ++ ", protection: "
    ++ store.protection.describe ++ ", loaded: " ++ (if store.isLoaded then "true" else "false")
    ++ ", .. \x7d"

end KeyStore

end Credential.Store
