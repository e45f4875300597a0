import Credential.Der.ObjectIdentifier
import Credential.X509.Value

/-!
# Keywords of object identifiers

The registered short names of object identifiers. Most of them name attribute types, but an
attribute may have any identifier for its type, so the table holds the other registered
ones as well: object classes, extensions, algorithms and the arcs above them.

`Branch.all` lists the names by the arcs that identifiers have in common, the last arc apart.
Where the registries give an identifier several names, the shortest one stands here.
`keyword?` is the name in capitals.
-/

namespace Credential.X509

/-- The named identifiers under common arcs, by their last arc. -/
structure Branch where
  base : List Nat
  names : List (Nat × String)
  deriving DecidableEq, Repr

namespace Branch

/-- Attribute types, object classes, matching rules and operational attributes of directories. -/
def directory : List Branch :=
  [⟨[0, 9, 2342, 19200300, 100, 1], [(1, "uid"), (2, "textEncodedORAddress"), (3, "mail"),
      (4, "info"), (5, "drink"), (6, "roomNumber"), (7, "photo"), (8, "userClass"), (9, "host"),
      (10, "manager"), (11, "documentIdentifier"), (12, "documentTitle"), (13, "documentVersion"),
      (14, "documentAuthor"), (15, "documentLocation"), (20, "homePhone"), (21, "secretary"),
      (22, "otherMailbox"), (23, "lastModifiedTime"), (24, "lastModifiedBy"), (25, "dc"),
      (26, "aRecord"), (27, "mDRecord"), (28, "mXRecord"), (29, "nSRecord"), (30, "sOARecord"),
      (31, "cNAMERecord"), (37, "associatedDomain"), (38, "associatedName"),
      (39, "homePostalAddress"), (40, "personalTitle"), (41, "mobile"), (42, "pager"), (43, "co"),
      (44, "uniqueIdentifier"), (45, "organizationalStatus"), (46, "janetMailbox"),
      (47, "mailPreferenceOption"), (48, "buildingName"), (49, "dSAQuality"),
      (50, "singleLevelQuality"), (51, "subtreeMinimumQuality"), (52, "subtreeMaximumQuality"),
      (53, "personalSignature"), (54, "dITRedirect"), (55, "audio"), (56, "documentPublisher"),
      (60, "jpegPhoto")]⟩,
   ⟨[0, 9, 2342, 19200300, 100, 4], [(3, "pilotObject"), (4, "pilotPerson"), (5, "account"),
      (6, "document"), (7, "room"), (8, "documentSeries"), (13, "domain"), (14, "RFC822LocalPart"),
      (15, "dNSDomain"), (17, "domainRelatedObject"), (18, "friendlyCountry"),
      (19, "simpleSecurityObject"), (20, "pilotOrganization"), (21, "pilotDSA"),
      (22, "qualityLabelledData")]⟩,
   ⟨[2, 5], [(4, "id-at"), (29, "id-ce")]⟩,
   ⟨[2, 5, 1, 5], [(55, "id-at-clearance")]⟩,
   ⟨[2, 5, 4], [(0, "objectClass"), (1, "aliasedObjectName"), (2, "knowledgeInformation"),
      (3, "cn"), (4, "sn"), (5, "serialNumber"), (6, "c"), (7, "l"), (8, "st"), (9, "street"),
      (10, "o"), (11, "ou"), (12, "title"), (13, "description"), (14, "searchGuide"),
      (15, "businessCategory"), (16, "postalAddress"), (17, "postalCode"), (18, "postOfficeBox"),
      (19, "physicalDeliveryOfficeName"), (20, "telephoneNumber"), (21, "telexNumber"),
      (22, "teletexTerminalIdentifier"), (23, "facsimileTelephoneNumber"), (24, "x121Address"),
      (25, "internationalISDNNumber"), (26, "registeredAddress"), (27, "destinationIndicator"),
      (28, "preferredDeliveryMethod"), (29, "presentationAddress"),
      (30, "supportedApplicationContext"), (31, "member"), (32, "owner"), (33, "roleOccupant"),
      (34, "seeAlso"), (35, "userPassword"), (36, "userCertificate"), (37, "cACertificate"),
      (38, "authorityRevocationList"), (39, "certificateRevocationList"),
      (40, "crossCertificatePair"), (41, "name"), (42, "givenName"), (43, "initials"),
      (44, "generationQualifier"), (45, "x500UniqueIdentifier"), (46, "dnQualifier"),
      (47, "enhancedSearchGuide"), (48, "protocolInformation"), (49, "distinguishedName"),
      (50, "uniqueMember"), (51, "houseIdentifier"), (52, "supportedAlgorithms"),
      (53, "deltaRevocationList"), (54, "dmdName"), (55, "id-at-clearance"), (65, "pseudonym"),
      (72, "id-at-role")]⟩,
   ⟨[2, 5, 4, 7], [(1, "c-l")]⟩,
   ⟨[2, 5, 4, 8], [(1, "c-st")]⟩,
   ⟨[2, 5, 4, 9], [(1, "c-street")]⟩,
   ⟨[2, 5, 4, 10], [(1, "c-o")]⟩,
   ⟨[2, 5, 4, 11], [(1, "c-ou")]⟩,
   ⟨[2, 5, 4, 16], [(1, "c-PostalAddress")]⟩,
   ⟨[2, 5, 4, 17], [(1, "c-PostalCode")]⟩,
   ⟨[2, 5, 4, 18], [(1, "c-PostOfficeBox")]⟩,
   ⟨[2, 5, 4, 19], [(1, "c-PhysicalDeliveryOffice")]⟩,
   ⟨[2, 5, 4, 20], [(1, "c-TelephoneNumber")]⟩,
   ⟨[2, 5, 4, 21], [(1, "c-TelexNumber")]⟩,
   ⟨[2, 5, 4, 23], [(1, "c-FacsimileTelephoneNumber")]⟩,
   ⟨[2, 5, 4, 25], [(1, "c-InternationalISDNNumber")]⟩,
   ⟨[2, 5, 6], [(0, "top"), (1, "alias"), (2, "country"), (3, "locality"), (4, "organization"),
      (5, "organizationalUnit"), (6, "person"), (7, "organizationalPerson"),
      (8, "organizationalRole"), (9, "groupOfNames"), (10, "residentialPerson"),
      (11, "applicationProcess"), (12, "applicationEntity"), (13, "dSA"), (14, "device"),
      (15, "strongAuthenticationUser"), (16, "certificationAuthority"), (17, "groupOfUniqueNames"),
      (18, "userSecurityInformation"), (19, "cRLDistributionPoint"), (20, "dmd"), (21, "pkiUser"),
      (22, "pkiCA"), (23, "deltaCRL")]⟩,
   ⟨[2, 5, 6, 16], [(2, "certificationAuthority-V2")]⟩,
   ⟨[2, 5, 13], [(0, "objectIdentifierMatch"), (1, "distinguishedNameMatch"),
      (2, "caseIgnoreMatch"), (3, "caseIgnoreOrderingMatch"), (4, "caseIgnoreSubstringsMatch"),
      (5, "caseExactMatch"), (6, "caseExactOrderingMatch"), (7, "caseExactSubstringsMatch"),
      (8, "numericStringMatch"), (9, "numericStringOrderingMatch"),
      (10, "numericStringSubstringsMatch"), (11, "caseIgnoreListMatch"),
      (12, "caseIgnoreListSubstringsMatch"), (13, "booleanMatch"), (14, "integerMatch"),
      (15, "integerOrderingMatch"), (16, "bitStringMatch"), (17, "octetStringMatch"),
      (18, "octetStringOrderingMatch"), (20, "telephoneNumberMatch"),
      (21, "telephoneNumberSubstringsMatch"), (22, "presentationAddressMatch"),
      (23, "uniqueMemberMatch"), (24, "protocolInformationMatch"), (27, "generalizedTimeMatch"),
      (28, "generalizedTimeOrderingMatch"), (29, "integerFirstComponentMatch"),
      (30, "objectIdentifierFirstComponentMatch"), (31, "directoryStringFirstComponentMatch"),
      (32, "wordMatch"), (33, "keywordMatch"), (34, "certificateExactMatch"),
      (35, "certificateMatch"), (36, "certificatePairExactMatch"), (37, "certificatePairMatch"),
      (38, "certificateListExactMatch"), (39, "certificateListMatch"),
      (40, "algorithmIdentifierMatch"), (41, "storedPrefixMatch")]⟩,
   ⟨[2, 5, 17], [(0, "subentry"), (2, "collectiveAttributeSubentry")]⟩,
   ⟨[2, 5, 18], [(1, "createTimestamp"), (2, "modifyTimestamp"), (3, "creatorsName"),
      (4, "modifiersName"), (5, "administrativeRole"), (6, "subtreeSpecification"),
      (7, "collectiveExclusions"), (10, "subschemaSubentry"),
      (12, "collectiveAttributeSubentries")]⟩,
   ⟨[2, 5, 20], [(1, "subschema")]⟩,
   ⟨[2, 5, 21], [(1, "dITStructureRules"), (2, "dITContentRules"), (4, "matchingRules"),
      (5, "attributeTypes"), (6, "objectClasses"), (7, "nameForms"), (8, "matchingRuleUse"),
      (9, "structuralObjectClass"), (10, "governingStructureRule")]⟩,
   ⟨[2, 5, 23], [(1, "autonomousArea"), (2, "accessControlSpecificArea"),
      (3, "accessControlInnerArea"), (4, "subschemaAdminSpecificArea"),
      (5, "collectiveAttributeSpecificArea"), (6, "collectiveAttributeInnerArea")]⟩,
   ⟨[1, 2, 36, 79672281, 1, 13], [(2, "componentFilterMatch"), (3, "rdnMatch"),
      (5, "presentMatch"), (6, "allComponentsMatch"), (7, "directoryComponentsMatch")]⟩,
   ⟨[1, 3, 6, 1, 1, 3], [(1, "uidObject")]⟩,
   ⟨[1, 3, 6, 1, 1, 16], [(2, "UUIDMatch"), (3, "UUIDOrderingMatch"), (4, "entryUUID")]⟩,
   ⟨[1, 3, 6, 1, 1], [(20, "entryDN")]⟩,
   ⟨[1, 3, 6, 1, 1, 23], [(1, "JIDObject"), (2, "jid")]⟩,
   ⟨[1, 3, 6, 1, 4, 1, 250, 1], [(57, "labeledURI")]⟩,
   ⟨[1, 3, 6, 1, 4, 1, 250, 3], [(15, "labeledURIObject")]⟩,
   ⟨[1, 3, 6, 1, 4, 1, 453, 7, 1], [(1, "subtree"), (2, "table"), (3, "tableEntry"),
      (4, "mixerGateway"), (5, "distinguishedNameTableEntry")]⟩,
   ⟨[1, 3, 6, 1, 4, 1, 453, 7, 2], [(1, "textTableKey"), (2, "textTableValue"),
      (3, "associatedX400Gateway"), (6, "associatedORAddress"), (7, "oRAddressComponentType"),
      (8, "associatedInternetGateway"), (9, "mcgamTables")]⟩,
   ⟨[1, 3, 6, 1, 4, 1, 1466], [(344, "dcObject"), (345, "domainNameForm")]⟩,
   ⟨[1, 3, 6, 1, 4, 1, 1466, 101, 119], [(2, "dynamicObject"), (3, "entryTtl"),
      (4, "dynamicSubtrees")]⟩,
   ⟨[1, 3, 6, 1, 4, 1, 1466, 101, 120], [(5, "namingContexts"), (6, "altServer"),
      (7, "supportedExtension"), (13, "supportedControl"), (14, "supportedSASLMechanisms"),
      (15, "supportedLDAPVersion"), (16, "ldapSyntaxes"), (111, "extensibleObject")]⟩,
   ⟨[1, 3, 6, 1, 4, 1, 1466, 109, 114], [(1, "caseExactIA5Match"), (2, "caseIgnoreIA5Match"),
      (3, "caseIgnoreIA5SubstringsMatch")]⟩,
   ⟨[1, 3, 6, 1, 4, 1, 4203, 1, 3], [(5, "supportedFeatures")]⟩]

/-- Attribute types and object classes of applications that keep their data in a directory. -/
def applications : List Branch :=
  [⟨[2, 16, 840, 1, 113730, 3, 1], [(1, "carLicense"), (2, "departmentNumber"),
      (3, "employeeNumber"), (4, "employeeType"), (34, "ref"), (39, "preferredLanguage"),
      (40, "userSMIMECertificate"), (216, "userPKCS12"), (241, "displayName")]⟩,
   ⟨[2, 16, 840, 1, 113730, 3, 2], [(2, "inetOrgPerson"), (6, "referral")]⟩,
   ⟨[1, 2, 840, 113556, 1, 4], [(478, "calCalURI"), (479, "calFBURL"), (480, "calCAPURI"),
      (481, "calCalAdrURI"), (482, "calOtherCalURIs"), (483, "calOtherFBURLs"),
      (484, "calOtherCAPURIs"), (485, "calOtherCalAdrURIs")]⟩,
   ⟨[1, 2, 840, 113556, 1, 5], [(87, "calEntry")]⟩,
   ⟨[1, 3, 6, 1, 4, 1, 11, 1, 3, 1, 1], [(0, "defaultServerList"), (1, "defaultSearchBase"),
      (2, "preferredServerList"), (3, "searchTimeLimit"), (4, "bindTimeLimit"),
      (5, "followReferrals"), (6, "authenticationMethod"), (7, "profileTTL"), (9, "attributeMap"),
      (10, "credentialLevel"), (11, "objectclassMap"), (12, "defaultSearchScope"),
      (13, "serviceCredentialLevel"), (14, "serviceSearchDescriptor"),
      (15, "serviceAuthenticationMethod"), (16, "dereferenceAliases")]⟩,
   ⟨[1, 3, 6, 1, 4, 1, 11, 1, 3, 1, 2], [(5, "DUAConfigProfile")]⟩,
   ⟨[1, 3, 6, 1, 4, 1, 16572, 2, 1], [(1, "LDIFLocationURLObject"), (2, "provider")]⟩,
   ⟨[1, 3, 6, 1, 4, 1, 16572, 2, 2], [(1, "providerCertificateHash"), (2, "providerCertificate"),
      (3, "providerName"), (4, "mailReceipt"), (5, "managedDomains"), (6, "LDIFLocationURL"),
      (7, "providerUnit")]⟩,
   ⟨[1, 3, 6, 1, 4, 1, 31103, 1], [(1, "fedfsUuid"), (4, "fedfsFsnUuid"), (8, "fedfsFslUuid"),
      (11, "fedfsFsnTTL"), (12, "fedfsAnnotation"), (13, "fedfsDescr"), (14, "fedfsNceDN"),
      (103, "fedfsNfsCurrency"), (104, "fedfsNfsGenFlagWritable"), (105, "fedfsNfsGenFlagGoing"),
      (106, "fedfsNfsGenFlagSplit"), (107, "fedfsNfsTransFlagRdma"), (108, "fedfsNfsClassSimul"),
      (109, "fedfsNfsClassHandle"), (110, "fedfsNfsClassFileid"), (111, "fedfsNfsClassWritever"),
      (112, "fedfsNfsClassChange"), (113, "fedfsNfsClassReaddir"), (114, "fedfsNfsReadRank"),
      (115, "fedfsNfsReadOrder"), (116, "fedfsNfsWriteRank"), (117, "fedfsNfsWriteOrder"),
      (118, "fedfsNfsVarSub"), (119, "fedfsNfsValidFor"), (120, "fedfsNfsURI"),
      (1001, "fedfsNsdbContainerInfo"), (1002, "fedfsFsn"), (1003, "fedfsFsl"),
      (1004, "fedfsNfsFsl")]⟩,
   ⟨[1, 3, 6, 1, 1, 10, 4], [(1, "uddiBusinessKey"), (2, "uddiAuthorizedName"),
      (3, "uddiOperator"), (4, "uddiName"), (5, "uddiDescription"), (6, "uddiDiscoveryURLs"),
      (7, "uddiUseType"), (8, "uddiPersonName"), (9, "uddiPhone"), (10, "uddiEMail"),
      (11, "uddiSortCode"), (12, "uddiTModelKey"), (13, "uddiAddressLine"),
      (14, "uddiIdentifierBag"), (15, "uddiCategoryBag"), (16, "uddiKeyedReference"),
      (17, "uddiServiceKey"), (18, "uddiBindingKey"), (19, "uddiAccessPoint"),
      (20, "uddiHostingRedirector"), (21, "uddiInstanceDescription"), (22, "uddiInstanceParms"),
      (23, "uddiOverviewDescription"), (24, "uddiOverviewURL"), (25, "uddiFromKey"),
      (26, "uddiToKey"), (27, "uddiUUID"), (28, "uddiIsHidden"), (29, "uddiIsProjection"),
      (30, "uddiLang"), (31, "uddiv3BusinessKey"), (32, "uddiv3ServiceKey"),
      (33, "uddiv3BindingKey"), (34, "uddiv3TmodelKey"), (35, "uddiv3DigitalSignature"),
      (36, "uddiv3NodeId"), (37, "uddiv3EntityModificationTime"), (38, "uddiv3SubscriptionKey"),
      (39, "uddiv3SubscriptionFilter"), (40, "uddiv3NotificationInterval"),
      (41, "uddiv3MaxEntities"), (42, "uddiv3ExpiresAfter"), (43, "uddiv3BriefResponse"),
      (44, "uddiv3EntityKey"), (45, "uddiv3EntityCreationTime"), (46, "uddiv3EntityDeletionTime")]⟩,
   ⟨[1, 3, 6, 1, 1, 10, 6], [(1, "uddiBusinessEntity"), (2, "uddiContact"), (3, "uddiAddress"),
      (4, "uddiBusinessService"), (5, "uddiBindingTemplate"), (6, "uddiTModelInstanceInfo"),
      (7, "uddiTModel"), (8, "uddiPublisherAssertion"), (9, "uddiv3Subscription"),
      (10, "uddiv3EntityObituary")]⟩,
   ⟨[1, 3, 6, 1, 1, 10, 15], [(1, "uddiBusinessEntityNameForm"), (2, "uddiContactNameForm"),
      (3, "uddiAddressNameForm"), (4, "uddiBusinessServiceNameForm"),
      (5, "uddiBindingTemplateNameForm"), (6, "uddiTModelInstanceInfoNameForm"),
      (7, "uddiTModelNameForm"), (8, "uddiPublisherAssertionNameForm"),
      (9, "uddiv3SubscriptionNameForm"), (10, "uddiv3EntityObituaryNameForm")]⟩,
   ⟨[1, 3, 6, 1, 1, 11, 1], [(1, "vPIMUser")]⟩,
   ⟨[1, 3, 6, 1, 1, 11, 2], [(1, "vPIMTelephoneNumber"), (2, "vPIMRfc822Mailbox"),
      (3, "vPIMSpokenName"), (4, "vPIMSupportedUABehaviors"), (5, "vPIMSupportedAudioMediaTypes"),
      (6, "vPIMSupportedMessageContext"), (7, "vPIMTextName"), (8, "vPIMExtendedAbsenceStatus"),
      (9, "vPIMMaxMessageSize"), (10, "vPIMSubMailboxes")]⟩]

/-- Attribute types and object classes of policies and their rules. -/
def policies : List Branch :=
  [⟨[1, 3, 6, 1, 1, 6, 1], [(1, "pcimPolicy"), (2, "pcimGroup"), (3, "pcimGroupAuxClass"),
      (4, "pcimGroupInstance"), (5, "pcimRule"), (6, "pcimRuleAuxClass"), (7, "pcimRuleInstance"),
      (8, "pcimRuleConditionAssociation"), (9, "pcimRuleValidityAssociation"),
      (10, "pcimRuleActionAssociation"), (11, "pcimConditionAuxClass"), (12, "pcimTPCAuxClass"),
      (13, "pcimConditionVendorAuxClass"), (14, "pcimActionAuxClass"),
      (15, "pcimActionVendorAuxClass"), (16, "pcimPolicyInstance"), (17, "pcimElementAuxClass"),
      (18, "pcimRepository"), (19, "pcimRepositoryAuxClass"), (20, "pcimRepositoryInstance"),
      (21, "pcimSubtreesPtrAuxClass"), (22, "pcimGroupContainmentAuxClass"),
      (23, "pcimRuleContainmentAuxClass")]⟩,
   ⟨[1, 3, 6, 1, 1, 6, 2], [(3, "pcimKeywords"), (4, "pcimGroupName"), (5, "pcimRuleName"),
      (6, "pcimRuleEnabled"), (7, "pcimRuleConditionListType"), (8, "pcimRuleConditionList"),
      (9, "pcimRuleActionList"), (10, "pcimRuleValidityPeriodList"), (11, "pcimRuleUsage"),
      (12, "pcimRulePriority"), (13, "pcimRuleMandatory"), (14, "pcimRuleSequencedActions"),
      (15, "pcimRoles"), (16, "pcimConditionGroupNumber"), (17, "pcimConditionNegated"),
      (18, "pcimConditionName"), (19, "pcimConditionDN"), (20, "pcimValidityConditionName"),
      (21, "pcimTimePeriodConditionDN"), (22, "pcimActionName"), (23, "pcimActionOrder"),
      (24, "pcimActionDN"), (25, "pcimTPCTime"), (26, "pcimTPCMonthOfYearMask"),
      (27, "pcimTPCDayOfMonthMask"), (28, "pcimTPCDayOfWeekMask"), (29, "pcimTPCTimeOfDayMask"),
      (30, "pcimTPCLocalOrUtcTime"), (31, "pcimVendorConstraintData"),
      (32, "pcimVendorConstraintEncoding"), (33, "pcimVendorActionData"),
      (34, "pcimVendorActionEncoding"), (35, "pcimPolicyInstanceName"), (36, "pcimRepositoryName"),
      (37, "pcimSubtreesAuxContainedSet"), (38, "pcimGroupsAuxContainedSet"),
      (39, "pcimRulesAuxContainedSet")]⟩,
   ⟨[1, 3, 6, 1, 1, 9, 1], [(1, "pcelsPolicySet"), (2, "pcelsPolicySetAssociation"),
      (3, "pcelsGroup"), (4, "pcelsGroupAuxClass"), (5, "pcelsGroupInstance"), (6, "pcelsRule"),
      (7, "pcelsRuleAuxClass"), (8, "pcelsRuleInstance"), (9, "pcelsConditionAssociation"),
      (10, "pcelsActionAssociation"), (11, "pcelsSimpleConditionAuxClass"),
      (12, "pcelsCompoundConditionAuxClass"), (13, "pcelsCompoundFilterConditionAuxClass"),
      (14, "pcelsSimpleActionAuxClass"), (15, "pcelsCompoundActionAuxClass"),
      (16, "pcelsVariable"), (17, "pcelsExplicitVariableAuxClass"),
      (18, "pcelsImplicitVariableAuxClass"), (19, "pcelsSourceIPv4VariableAuxClass"),
      (20, "pcelsSourceIPv6VariableAuxClass"), (21, "pcelsDestinationIPv4VariableAuxClass"),
      (22, "pcelsDestinationIPv6VariableAuxClass"), (23, "pcelsSourcePortVariableAuxClass"),
      (24, "pcelsDestinationPortVariableAuxClass"), (25, "pcelsIPProtocolVariableAuxClass"),
      (26, "pcelsIPVersionVariableAuxClass"), (27, "pcelsIPToSVariableAuxClass"),
      (28, "pcelsDSCPVariableAuxClass"), (29, "pcelsFlowIdVariableAuxClass"),
      (30, "pcelsSourceMACVariableAuxClass"), (31, "pcelsDestinationMACVariableAuxClass"),
      (32, "pcelsVLANVariableAuxClass"), (33, "pcelsCoSVariableAuxClass"),
      (34, "pcelsEthertypeVariableAuxClass"), (35, "pcelsSourceSAPVariableAuxClass"),
      (36, "pcelsDestinationSAPVariableAuxClass"), (37, "pcelsSNAPOUIVariableAuxClass"),
      (38, "pcelsSNAPTypeVariableAuxClass"), (39, "pcelsFlowDirectionVariableAuxClass"),
      (40, "pcelsValueAuxClass"), (41, "pcelsIPv4AddrValueAuxClass"),
      (42, "pcelsIPv6AddrValueAuxClass"), (43, "pcelsMACAddrValueAuxClass"),
      (44, "pcelsStringValueAuxClass"), (45, "pcelsBitStringValueAuxClass"),
      (46, "pcelsIntegerValueAuxClass"), (47, "pcelsBooleanValueAuxClass"),
      (48, "pcelsReusableContainer"), (49, "pcelsReusableContainerAuxClass"),
      (50, "pcelsReusableContainerInstance"), (51, "pcelsRoleCollection"),
      (52, "pcelsFilterEntryBase"), (53, "pcelsIPHeadersFilter"), (54, "pcels8021Filter"),
      (55, "pcelsFilterListAuxClass"), (56, "pcelsVendorVariableAuxClass"),
      (57, "pcelsVendorValueAuxClass")]⟩,
   ⟨[1, 3, 6, 1, 1, 9, 2], [(1, "pcelsPolicySetName"), (2, "pcelsDecisionStrategy"),
      (3, "pcelsPolicySetList"), (4, "pcelsPriority"), (5, "pcelsPolicySetDN"),
      (6, "pcelsConditionListType"), (7, "pcelsConditionList"), (8, "pcelsActionList"),
      (9, "pcelsSequencedActions"), (10, "pcelsExecutionStrategy"), (11, "pcelsVariableDN"),
      (12, "pcelsValueDN"), (13, "pcelsIsMirrored"), (14, "pcelsVariableName"),
      (15, "pcelsExpectedValueList"), (16, "pcelsVariableModelClass"),
      (17, "pcelsVariableModelProperty"), (18, "pcelsExpectedValueTypes"), (19, "pcelsValueName"),
      (20, "pcelsIPv4AddrList"), (21, "pcelsIPv6AddrList"), (22, "pcelsMACAddrList"),
      (23, "pcelsStringList"), (24, "pcelsBitStringList"), (25, "pcelsIntegerList"),
      (26, "pcelsBoolean"), (27, "pcelsReusableContainerName"), (28, "pcelsReusableContainerList"),
      (29, "pcelsRole"), (30, "pcelsRoleCollectionName"), (31, "pcelsElementList"),
      (32, "pcelsFilterName"), (33, "pcelsFilterIsNegated"), (34, "pcelsIPHdrVersion"),
      (35, "pcelsIPHdrSourceAddress"), (36, "pcelsIPHdrSourceAddressEndOfRange"),
      (37, "pcelsIPHdrSourceMask"), (38, "pcelsIPHdrDestAddress"),
      (39, "pcelsIPHdrDestAddressEndOfRange"), (40, "pcelsIPHdrDestMask"),
      (41, "pcelsIPHdrProtocolID"), (42, "pcelsIPHdrSourcePortStart"),
      (43, "pcelsIPHdrSourcePortEnd"), (44, "pcelsIPHdrDestPortStart"),
      (45, "pcelsIPHdrDestPortEnd"), (46, "pcelsIPHdrDSCPList"), (47, "pcelsIPHdrFlowLabel"),
      (48, "pcels8021HdrSourceMACAddress"), (49, "pcels8021HdrSourceMACMask"),
      (50, "pcels8021HdrDestMACAddress"), (51, "pcels8021HdrDestMACMask"),
      (52, "pcels8021HdrProtocolID"), (53, "pcels8021HdrPriority"), (54, "pcels8021HdrVLANID"),
      (55, "pcelsFilterListName"), (56, "pcelsFilterDirection"), (57, "pcelsFilterEntryList"),
      (58, "pcelsVendorVariableData"), (59, "pcelsVendorVariableEncoding"),
      (60, "pcelsVendorValueData"), (61, "pcelsVendorValueEncoding")]⟩]

/-- Attribute types and object classes of printers. -/
def printers : List Branch :=
  [⟨[1, 3, 18, 0, 2, 4], [(1107, "printer-xri-supported"), (1108, "printer-aliases"),
      (1109, "printer-charset-configured"), (1110, "printer-job-priority-supported"),
      (1111, "printer-job-k-octets-supported"), (1112, "printer-current-operator"),
      (1113, "printer-service-person"), (1114, "printer-delivery-orientation-supported"),
      (1115, "printer-stacking-order-supported"), (1116, "printer-output-features-supported"),
      (1117, "printer-media-local-supported"), (1118, "printer-copies-supported"),
      (1119, "printer-natural-language-configured"), (1120, "printer-print-quality-supported"),
      (1121, "printer-resolution-supported"), (1122, "printer-media-supported"),
      (1123, "printer-sides-supported"), (1124, "printer-number-up-supported"),
      (1125, "printer-finishings-supported"), (1126, "printer-pages-per-minute-color"),
      (1127, "printer-pages-per-minute"), (1128, "printer-compression-supported"),
      (1129, "printer-color-supported"), (1130, "printer-document-format-supported"),
      (1131, "printer-charset-supported"), (1132, "printer-multiple-document-jobs-supported"),
      (1133, "printer-ipp-versions-supported"), (1134, "printer-more-info"),
      (1135, "printer-name"), (1136, "printer-location"),
      (1137, "printer-generated-natural-language-supported"), (1138, "printer-make-and-model"),
      (1139, "printer-info"), (1140, "printer-uri")]⟩,
   ⟨[1, 3, 18, 0, 2, 24, 46, 1], [(101, "printer-device-id"),
      (102, "printer-device-service-count"), (104, "printer-uuid"), (105, "printer-charge-info"),
      (106, "printer-charge-info-uri"), (107, "printer-geo-location"),
      (108, "printer-ipp-features-supported")]⟩,
   ⟨[1, 3, 18, 0, 2, 6], [(253, "printerLPR"), (254, "slpServicePrinter"), (255, "printerService"),
      (256, "printerIPP"), (257, "printerServiceAuxClass"), (258, "printerAbstract")]⟩]

/-- Extensions, key purposes, policies and protocols of public key infrastructures. -/
def certificates : List Branch :=
  [⟨[2, 5, 29], [(9, "id-ce-subjectDirectoryAttributes"), (14, "id-ce-subjectKeyIdentifier"),
      (15, "id-ce-keyUsage"), (16, "id-ce-privateKeyUsagePeriod"), (17, "id-ce-subjectAltName"),
      (18, "id-ce-issuerAltName"), (19, "id-ce-basicConstraints"), (20, "id-ce-cRLNumber"),
      (21, "id-ce-cRLReasons"), (23, "id-ce-holdInstructionCode"), (24, "id-ce-invalidityDate"),
      (27, "id-ce-deltaCRLIndicator"), (28, "id-ce-issuingDistributionPoint"),
      (29, "id-ce-certificateIssuer"), (30, "id-ce-nameConstraints"),
      (31, "id-ce-cRLDistributionPoints"), (32, "id-ce-certificatePolicies"),
      (33, "id-ce-policyMappings"), (35, "id-ce-authorityKeyIdentifier"),
      (36, "id-ce-policyConstraints"), (37, "id-ce-extKeyUsage"), (46, "id-ce-freshestCRL"),
      (54, "id-ce-inhibitAnyPolicy"), (55, "id-ce-targetInformation")]⟩,
   ⟨[2, 5, 29, 32], [(0, "anyPolicy")]⟩,
   ⟨[2, 5, 29, 37], [(0, "anyExtendedKeyUsage")]⟩,
   ⟨[2, 2, 840, 10040], [(2, "holdInstruction")]⟩,
   ⟨[2, 2, 840, 10040, 2], [(1, "id-holdinstruction-none"), (2, "id-holdinstruction-callissuer"),
      (3, "id-holdinstruction-reject")]⟩,
   ⟨[1, 3, 6, 1, 5, 5], [(7, "id-pkix"), (11, "ltans")]⟩,
   ⟨[1, 3, 6, 1, 5, 5, 8, 1], [(2, "hMAC-SHA1")]⟩,
   ⟨[1, 3, 6, 1, 5, 5, 7], [(0, "id-mod"), (1, "id-pe"), (2, "id-qt"), (3, "id-kp"), (4, "id-it"),
      (5, "id-pkip"), (6, "id-alg"), (7, "id-cmc"), (8, "id-on"), (9, "id-pda"), (10, "id-aca"),
      (11, "id-qcs"), (12, "id-cct"), (13, "id-TEST"), (14, "id-cp"), (15, "id-cet"),
      (16, "id-ri"), (17, "id-stc"), (18, "id-swb"), (19, "id-svp"), (20, "id-logo"),
      (21, "id-ppl"), (22, "id-mr"), (23, "id-skis"), (24, "id-scep"), (48, "id-ad")]⟩,
   ⟨[1, 3, 6, 1, 5, 5, 7, 1], [(1, "id-pe-authorityInfoAccess"), (4, "id-pe-ac-auditIdentity"),
      (6, "id-pe-aaControls"), (7, "id-pe-ipAddrBlocks"), (8, "id-pe-autonomousSysIds"),
      (10, "id-pe-ac-proxying"), (11, "id-pe-subjectInfoAccess"), (13, "id-pe-wlanSSID")]⟩,
   ⟨[1, 3, 6, 1, 5, 5, 7, 2], [(1, "id-qt-cps"), (2, "id-qt-unotice")]⟩,
   ⟨[1, 3, 6, 1, 5, 5, 7, 3], [(1, "id-kp-serverAuth"), (2, "id-kp-clientAuth"),
      (3, "id-kp-codeSigning"), (4, "id-kp-emailProtection"), (8, "id-kp-timeStamping"),
      (9, "id-kp-OCSPSigning"), (13, "id-kp-eapOverPPP"), (14, "id-kp-eapOverLAN"),
      (15, "id-kp-scvpServer"), (16, "id-kp-scvpClient")]⟩,
   ⟨[1, 3, 6, 1, 5, 5, 7, 4], [(1, "id-it-caProtEncCert"), (2, "id-it-signKeyPairTypes"),
      (3, "id-it-encKeyPairTypes"), (4, "id-it-preferredSymmAlg"), (5, "id-it-caKeyUpdateInfo"),
      (6, "id-it-currentCRL"), (7, "id-it-unsupportedOIDs"), (10, "id-it-keyPairParamReq"),
      (11, "id-it-keyPairParamRep"), (12, "id-it-revPassphrase"), (13, "id-it-implicitConfirm"),
      (14, "id-it-confirmWaitTime"), (15, "id-it-origPKIMessage"), (16, "id-it-suppLangTags")]⟩,
   ⟨[1, 3, 6, 1, 5, 5, 7, 5], [(1, "id-regCtrl"), (2, "id-regInfo")]⟩,
   ⟨[1, 3, 6, 1, 5, 5, 7, 5, 1], [(1, "id-regCtrl-regToken"), (2, "id-regCtrl-authenticator"),
      (3, "id-regCtrl-pkiPublicationInfo"), (4, "id-regCtrl-pkiArchiveOptions"),
      (5, "id-regCtrl-oldCertID"), (6, "id-regCtrl-protocolEncrKey")]⟩,
   ⟨[1, 3, 6, 1, 5, 5, 7, 5, 2], [(1, "id-regInfo-utf8Pairs"), (2, "id-regInfo-certReq")]⟩,
   ⟨[1, 3, 6, 1, 5, 5, 7, 6], [(2, "id-alg-noSignature")]⟩,
   ⟨[1, 3, 6, 1, 5, 5, 7, 7], [(1, "id-cmc-statusInfo"), (2, "id-cmc-identification"),
      (3, "id-cmc-identityProof"), (4, "id-cmc-dataReturn"), (5, "id-cmc-transactionId"),
      (6, "id-cmc-senderNonce"), (7, "id-cmc-recipientNonce"), (8, "id-cmc-addExtensions"),
      (9, "id-cmc-encryptedPOP"), (10, "id-cmc-decryptedPOP"), (11, "id-cmc-lraPOPWitness"),
      (15, "id-cmc-getCert"), (16, "id-cmc-getCRL"), (17, "id-cmc-revokeRequest"),
      (18, "id-cmc-regInfo"), (19, "id-cmc-responseInfo"), (21, "id-cmc-queryPending"),
      (22, "id-cmc-popLinkRandom"), (23, "id-cmc-popLinkWitness"),
      (24, "id-cmc-confirmCertAcceptance"), (25, "id-cmc-statusInfoV2"),
      (26, "id-cmc-trustedAnchors"), (27, "id-cmc-authData"), (28, "id-cmc-batchRequests"),
      (29, "id-cmc-batchResponses"), (30, "id-cmc-publishCert"), (31, "id-cmc-modCertTemplate"),
      (32, "id-cmc-controlProcessed"), (33, "id-cmc-popLinkWitnessV2"),
      (34, "id-cmc-identityProofV2"), (99, "id-cmc-glaRR")]⟩,
   ⟨[1, 3, 6, 1, 5, 5, 7, 7, 99], [(1, "id-cmc-gla-skdAlgRequest"),
      (2, "id-cmc-gla-skdAlgResponse")]⟩,
   ⟨[1, 3, 6, 1, 5, 5, 7, 8], [(4, "id-on-hardwareModuleName")]⟩,
   ⟨[1, 3, 6, 1, 5, 5, 7, 10], [(1, "id-aca-authenticationInfo"), (2, "id-aca-accessIdentity"),
      (3, "id-aca-chargingIdentity"), (4, "id-aca-group"), (6, "id-aca-encAttrs"),
      (7, "id-aca-wlanSSID")]⟩,
   ⟨[1, 3, 6, 1, 5, 5, 7, 12], [(2, "id-cct-PKIData"), (3, "id-cct-PKIResponse")]⟩,
   ⟨[1, 3, 6, 1, 5, 5, 7, 15], [(1, "id-cet-skdFailInfo")]⟩,
   ⟨[1, 3, 6, 1, 5, 5, 7, 16], [(2, "id-ri-ocsp-response"), (4, "id-ri-scvp")]⟩,
   ⟨[1, 3, 6, 1, 5, 5, 7, 17], [(1, "id-stc-build-pkc-path"), (2, "id-stc-build-valid-pkc-path"),
      (3, "id-stc-build-status-checked-pkc-path"), (4, "id-stc-build-aa-path"),
      (5, "id-stc-build-valid-aa-path"), (6, "id-stc-build-status-checked-aa-path"),
      (7, "id-stc-status-check-ac-and-build-status-checked-aa-path")]⟩,
   ⟨[1, 3, 6, 1, 5, 5, 7, 18], [(1, "id-swb-pkc-best-cert-path"),
      (2, "id-swb-pkc-revocation-info"), (4, "id-swb-pkc-public-key-info"),
      (5, "id-swb-aa-cert-path"), (6, "id-swb-aa-revocation-info"),
      (7, "id-swb-ac-revocation-info"), (9, "id-swb-relayed-responses"), (10, "id-swb-pkc-cert"),
      (11, "id-swb-ac-cert"), (12, "id-swb-pkc-all-cert-paths"),
      (13, "id-swb-pkc-ee-revocation-info"), (14, "id-swb-pkc-CAs-revocation-info")]⟩,
   ⟨[1, 3, 6, 1, 5, 5, 7, 19], [(1, "id-svp-defaultValPolicy"), (2, "id-nvae"), (3, "id-bvae"),
      (4, "id-nva-dnCompAlg")]⟩,
   ⟨[1, 3, 6, 1, 5, 5, 7, 19, 2], [(1, "id-nvae-name-mismatch"), (2, "id-nvae-no-name"),
      (3, "id-nvae-unknown-alg"), (4, "id-nvae-bad-name"), (5, "id-nvae-bad-name-type"),
      (6, "id-nvae-mixed-names")]⟩,
   ⟨[1, 3, 6, 1, 5, 5, 7, 19, 3], [(1, "id-bvae-expired"), (2, "id-bvae-not-yet-valid"),
      (3, "id-bvae-wrongTrustAnchor"), (4, "id-bvae-noValidCertPath"), (5, "id-bvae-revoked"),
      (9, "id-bvae-invalidKeyPurpose"), (10, "id-bvae-invalidKeyUsage"),
      (11, "id-bvae-invalidCertPolicy")]⟩,
   ⟨[1, 3, 6, 1, 5, 5, 7, 24], [(1, "id-scep-failInfoText")]⟩,
   ⟨[1, 3, 6, 1, 5, 5, 7, 48], [(1, "id-ad-ocsp"), (2, "id-ad-caIssuers"),
      (3, "id-ad-timeStamping"), (5, "id-ad-caRepository")]⟩,
   ⟨[1, 3, 6, 1, 5, 5, 7, 48, 1], [(1, "id-pkix-ocsp-basic"), (2, "id-pkix-ocsp-nonce"),
      (3, "id-pkix-ocsp-crl"), (4, "id-pkix-ocsp-response"), (5, "id-pkix-ocsp-nocheck"),
      (6, "id-pkix-ocsp-archive-cutoff"), (7, "id-pkix-ocsp-service-locator"),
      (8, "id-pkix-ocsp-pref-sig-algs"), (9, "id-pkix-ocsp-extended-revoke")]⟩,
   ⟨[2, 16, 840, 1], [(113733, "id-VeriSign")]⟩,
   ⟨[2, 16, 840, 1, 113733], [(1, "id-pki")]⟩,
   ⟨[2, 16, 840, 1, 113733, 1], [(9, "id-attributes")]⟩,
   ⟨[2, 16, 840, 1, 113733, 1, 9], [(2, "id-messageType"), (3, "id-pkiStatus"), (4, "id-failInfo"),
      (5, "id-senderNonce"), (6, "id-recipientNonce"), (7, "id-transactionID")]⟩,
   ⟨[1, 3, 6, 1, 4, 1], [(11129, "google")]⟩,
   ⟨[1, 3, 6, 1, 4, 1, 11129, 2, 4], [(2, "ct-precert-scts"), (3, "ct-precert-poison"),
      (4, "ct-precert-signing-cert")]⟩]

/-- Content types, attributes and distribution lists of signed and encrypted messages. -/
def messages : List Branch :=
  [⟨[1, 2, 840], [(113549, "rsadsi")]⟩,
   ⟨[1, 2, 840, 113549], [(2, "digestAlgorithm")]⟩,
   ⟨[1, 2, 840, 113549, 1], [(1, "pkcs-1"), (9, "pkcs-9")]⟩,
   ⟨[1, 2, 840, 113549, 1, 7], [(1, "id-data"), (2, "id-signedData"), (3, "id-envelopedData"),
      (5, "id-digestedData"), (6, "id-encryptedData")]⟩,
   ⟨[1, 2, 840, 113549, 1, 9], [(1, "email"), (3, "id-contentType"), (4, "id-messageDigest"),
      (5, "id-signingTime"), (6, "id-countersignature"), (14, "id-ExtensionReq"),
      (15, "smimeCapabilities"), (16, "id-smime")]⟩,
   ⟨[1, 2, 840, 113549, 1, 9, 16], [(0, "id-mod"), (1, "id-ct"), (2, "id-aa"), (3, "id-alg"),
      (4, "id-cd"), (5, "id-spq"), (6, "id-cti"), (7, "id-tsp"), (8, "id-skd"), (9, "id-sti"),
      (10, "id-eit"), (11, "id-cap"), (12, "id-pskc")]⟩,
   ⟨[1, 2, 840, 113549, 1, 9, 16, 1], [(1, "id-ct-receipt"), (2, "id-ct-authData"),
      (6, "id-ct-contentInfo"), (9, "id-ct-compressedData"), (10, "id-ct-scvp-certValRequest"),
      (11, "id-ct-scvp-certValResponse"), (12, "id-ct-scvp-valPolRequest"),
      (13, "id-ct-scvp-valPolResponse"), (16, "id-ct-firmwarePackage"),
      (17, "id-ct-firmwareLoadReceipt"), (18, "id-ct-firmwareLoadError"),
      (19, "id-ct-contentCollection"), (20, "id-ct-contentWithAttrs"), (21, "id-ct-encKeyWithID"),
      (23, "id-ct-authEnvelopedData")]⟩,
   ⟨[1, 2, 840, 113549, 1, 9, 2], [(51, "id-aa-multipleSignatures")]⟩,
   ⟨[1, 2, 840, 113549, 1, 9, 16, 2], [(1, "id-aa-receiptRequest"), (2, "id-aa-securityLabel"),
      (3, "id-aa-mlExpandHistory"), (4, "id-aa-contentHint"), (5, "id-aa-msgSigDigest"),
      (7, "id-aa-contentIdentifier"), (9, "id-aa-equivalentLabels"),
      (10, "id-aa-contentReference"), (11, "id-aa-encrypKeyPref"),
      (12, "id-aa-signingCertificate"), (34, "id-aa-cmc-unsignedData"),
      (35, "id-aa-firmwarePackageID"), (36, "id-aa-targetHardwareIDs"), (37, "id-aa-decryptKeyID"),
      (38, "id-aa-implCryptoAlgs"), (39, "id-aa-wrappedFirmwareKey"),
      (40, "id-aa-communityIdentifiers"), (42, "id-aa-firmwarePackageInfo"),
      (43, "id-aa-implCompressAlgs"), (46, "id-aa-binarySigningTime"),
      (47, "id-aa-signingCertificateV2"), (49, "id-aa-er-internal"), (50, "id-aa-er-external")]⟩,
   ⟨[1, 2, 840, 113549, 1, 9, 16, 3], [(5, "id-alg-ESDH"), (6, "id-alg-CMS3DESwrap"),
      (7, "id-alg-CMSRC2wrap"), (8, "id-alg-zlibCompress"), (10, "id-alg-SSDH")]⟩,
   ⟨[1, 2, 840, 113549, 1, 9, 16, 8], [(1, "id-skd-glUseKEK"), (2, "id-skd-glDelete"),
      (3, "id-skd-glAddMember"), (4, "id-skd-glDeleteMember"), (5, "id-skd-glRekey"),
      (6, "id-skd-glAddOwner"), (7, "id-skd-glRemoveOwner"), (8, "id-skd-glkCompromise"),
      (9, "id-skd-glkRefresh"), (11, "id-skd-glaQueryRequest"), (12, "id-skd-glaQueryResponse"),
      (13, "id-skd-glProvideCert"), (14, "id-skd-glManageCert"), (15, "id-skd-glKey")]⟩,
   ⟨[1, 2, 840, 113549, 1, 9, 16, 11], [(1, "id-cap-preferBinaryInside")]⟩]

/-- Algorithms of digests, ciphers and signatures, and named curves. -/
def algorithms : List Branch :=
  [⟨[1, 2, 840, 113549, 1, 1], [(1, "rsaEncryption"), (2, "md2WithRSAEncryption"),
      (4, "md5WithRSAEncryption"), (5, "sha1WithRSAEncryption"), (7, "id-RSAES-OAEP"),
      (8, "id-mgf1"), (9, "id-pSpecified"), (10, "id-RSASSA-PSS"), (11, "sha256WithRSAEncryption"),
      (12, "sha384WithRSAEncryption"), (13, "sha512WithRSAEncryption"),
      (14, "sha224WithRSAEncryption")]⟩,
   ⟨[1, 2, 840, 113549, 1, 5], [(12, "id-PBKDF2")]⟩,
   ⟨[1, 2, 840, 113549, 2], [(2, "id-md2"), (5, "id-md5"), (8, "id-hmacWithSHA224"),
      (9, "id-hmacWithSHA256"), (10, "id-hmacWithSHA384"), (11, "id-hmacWithSHA512")]⟩,
   ⟨[1, 2, 840, 113549, 3], [(2, "rc2-cbc"), (7, "des-ede3-cbc")]⟩,
   ⟨[1, 2, 840, 10040, 4], [(1, "id-dsa"), (3, "dsa-with-sha1")]⟩,
   ⟨[1, 2, 840, 10046, 2], [(1, "dhpublicnumber")]⟩,
   ⟨[1, 2, 840, 10045, 2], [(1, "id-ecPublicKey")]⟩,
   ⟨[1, 2, 840, 10045, 3, 1], [(7, "secp256r1")]⟩,
   ⟨[1, 2, 840, 10045, 4, 3], [(1, "ecdsa-with-SHA224"), (2, "ecdsa-with-SHA256"),
      (3, "ecdsa-with-SHA384"), (4, "ecdsa-with-SHA512")]⟩,
   ⟨[1, 3, 132, 0], [(1, "sect163k1"), (15, "sect163r2"), (16, "sect283k1"), (17, "sect283r1"),
      (26, "sect233k1"), (27, "sect233r1"), (33, "secp224r1"), (34, "secp384r1"),
      (35, "secp521r1"), (36, "sect409k1"), (37, "sect409r1"), (38, "sect571k1"),
      (39, "sect571r1")]⟩,
   ⟨[1, 3, 132, 1], [(12, "id-ecDH"), (13, "id-ecMQV")]⟩,
   ⟨[1, 3, 14, 3, 2], [(26, "id-sha1")]⟩,
   ⟨[2, 16, 840, 1, 101, 2, 1, 1], [(22, "id-keyExchangeAlgorithm")]⟩,
   ⟨[1, 2, 840, 113533, 7, 66], [(13, "id-PasswordBasedMac"), (30, "id-DHBasedMac")]⟩,
   ⟨[2, 16, 840, 1, 101, 3], [(4, "nistAlgorithms")]⟩,
   ⟨[2, 16, 840, 1, 101, 3, 4], [(1, "aes"), (2, "hashAlgs"), (3, "sigAlgs")]⟩,
   ⟨[2, 16, 840, 1, 101, 3, 4, 1], [(2, "id-aes128-CBC"), (5, "id-aes128-wrap"),
      (6, "id-aes128-GCM"), (7, "id-aes128-CCM"), (22, "id-aes192-CBC"), (25, "id-aes192-wrap"),
      (26, "id-aes192-GCM"), (27, "id-aes192-CCM"), (42, "id-aes256-CBC"), (45, "id-aes256-wrap"),
      (46, "id-aes256-GCM"), (47, "id-aes256-CCM")]⟩,
   ⟨[2, 16, 840, 1, 101, 3, 4, 2], [(1, "id-sha256"), (2, "id-sha384"), (3, "id-sha512"),
      (4, "id-sha224"), (7, "id-sha3-224"), (8, "id-sha3-256"), (9, "id-sha3-384"),
      (10, "id-sha3-512"), (11, "id-shake128"), (12, "id-shake256")]⟩,
   ⟨[2, 16, 840, 1, 101, 3, 4, 3], [(1, "dsa-with-sha224"), (2, "dsa-with-sha256"),
      (5, "id-dsa-with-sha3-224"), (6, "id-dsa-with-sha3-256"), (7, "id-dsa-with-sha3-384"),
      (8, "id-dsa-with-sha3-512"), (9, "id-ecdsa-with-sha3-224"), (10, "id-ecdsa-with-sha3-256"),
      (11, "id-ecdsa-with-sha3-384"), (12, "id-ecdsa-with-sha3-512"),
      (13, "id-rsassa-pkcs1-v1-5-with-sha3-224"), (14, "id-rsassa-pkcs1-v1-5-with-sha3-256"),
      (15, "id-rsassa-pkcs1-v1-5-with-sha3-384"), (16, "id-rsassa-pkcs1-v1-5-with-sha3-512")]⟩,
   ⟨[1, 3], [(101, "id-edwards-curve-algs")]⟩,
   ⟨[1, 3, 101], [(110, "id-X25519"), (111, "id-X448"), (112, "id-Ed25519"), (113, "id-Ed448")]⟩]

/-- All branches. -/
def all : List Branch :=
  directory ++ applications ++ policies ++ printers ++ certificates ++ messages ++ algorithms

/-- The name that a branch gives to arcs. -/
def name? (branch : Branch) (arcs : List Nat) : Option String :=
  if branch.base = arcs.dropLast then arcs.getLast?.bind (branch.names.lookup ·) else none

end Branch

/-- The registered name of arcs. -/
def registeredName? (arcs : List Nat) : Option String :=
  Branch.all.findSome? fun branch => branch.name? arcs

/-- The keyword of an identifier. A name belongs to one sequence of octets, so an identifier
with longer octets for the same arcs has no keyword. -/
def ObjectId.keyword? (id : ObjectId) : Option String := do
  let arcs ← ObjectId.arcs? id.content
  if Der.ObjectIdentifier.content ⟨arcs⟩ = id.content then
    return (← registeredName? arcs).toUpper
  else none

end Credential.X509
