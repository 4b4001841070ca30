import GraphGateway.Schema.Naming
import GraphGateway.Settings.Environment

/-!
What a served schema offers: whether relationships have properties and pages, where their order is
stored, how cursors are signed and how long a page may be.
-/
namespace GraphGateway.Settings

structure Features where
  relationshipProperties : Bool := true
  /-- The property of relationships that holds their place in the order of creation. -/
  sequenceProperty : String := "_seq"
  /-- The label of the nodes that count relationships. -/
  sequenceLabel : String := "_RelationshipSequence"
  cursorSecret : Option Secret := none
  maxPageSize : Option Int := none
  /-- Whether a mutation is undone if one of its entries matches nothing. -/
  requireMatch : Bool := false
  deriving DecidableEq, Repr, Inhabited

namespace Features

/-- A name that stands in statements as it is. -/
def readIdentifier (value : Value) : Checked String := do
  let name ← readFilledText value
  if !Schema.isSimpleIdentifier name then throw (.refused s!"'{name}' is not a valid identifier")
  pure name

def readPageSize : Value → Checked (Option Int) := readOptional (readWhole 1 10000)

def propertiesKey : String := "relationship_properties_enabled"

def sequencePropertyKey : String := "sequence_property"

def sequenceLabelKey : String := "sequence_label"

def secretKey : String := "cursor_secret"

def pageSizeKey : String := "max_page_size"

def matchKey : String := "require_connect_match"

def keys : List String :=
  [propertiesKey, sequencePropertyKey, sequenceLabelKey, secretKey, pageSizeKey, matchKey]

/-- The settings with the given fields and the defaults for all others. -/
def ofEntries (given : Entries Value) : Except (List Issue) Features :=
  let properties := readField given propertiesKey true readFlag
  let sequenceProperty := readField given sequencePropertyKey "_seq" readIdentifier
  let sequenceLabel := readField given sequenceLabelKey "_RelationshipSequence" readIdentifier
  let secret := readField given secretKey none (readOptional readSecret)
  let pageSize := readField given pageSizeKey none readPageSize
  let requireMatch := readField given matchKey false readFlag
  let extra := strangers keys given
  match properties, sequenceProperty, sequenceLabel, secret, pageSize, requireMatch, extra with
  | .ok relationshipProperties, .ok sequenceProperty, .ok sequenceLabel, .ok cursorSecret,
      .ok maxPageSize, .ok requireMatch, [] =>
        .ok { relationshipProperties, sequenceProperty, sequenceLabel, cursorSecret, maxPageSize,
              requireMatch }
  | _, _, _, _, _, _, _ =>
      .error (issueOf propertiesKey properties ++ issueOf sequencePropertyKey sequenceProperty ++
        issueOf sequenceLabelKey sequenceLabel ++ issueOf secretKey secret ++
        issueOf pageSizeKey pageSize ++ issueOf matchKey requireMatch ++ extra)

/-- The fields by their keys, the secret in the open. -/
def entries (features : Features) : Entries Value :=
  [(propertiesKey, .bool features.relationshipProperties),
   (sequencePropertyKey, .text features.sequenceProperty),
   (sequenceLabelKey, .text features.sequenceLabel),
   (secretKey, .textOrNull (features.cursorSecret.map Secret.text)),
   (pageSizeKey, match features.maxPageSize with
    | some size => .int size
    | none => .null),
   (matchKey, .bool features.requireMatch)]

/-- Sets one field.  A value that is refused leaves the settings as they are. -/
def assignField (features : Features) (name : String) (value : Value) : Features × List Issue :=
  if name = propertiesKey then
    assigned features name (readFlag value) fun flag =>
      { features with relationshipProperties := flag }
  else if name = sequencePropertyKey then
    assigned features name (readIdentifier value) fun name =>
      { features with sequenceProperty := name }
  else if name = sequenceLabelKey then
    assigned features name (readIdentifier value) fun name =>
      { features with sequenceLabel := name }
  else if name = secretKey then
    assigned features name (readOptional readSecret value) fun secret =>
      { features with cursorSecret := secret }
  else if name = pageSizeKey then
    assigned features name (readPageSize value) fun size => { features with maxPageSize := size }
  else if name = matchKey then
    assigned features name (readFlag value) fun flag => { features with requireMatch := flag }
  else (features, [⟨some name, .noSuchField⟩])

def assign (features : Features) (name : String) (value : Value) : Features × Option Rejection :=
  assignedTo [] features name (features.assignField name value)

def overrides : List Override :=
  [⟨"RELGRAPH_RELATIONSHIP_PROPERTIES", propertiesKey, readSwitch⟩,
   ⟨"RELGRAPH_SEQUENCE_PROPERTY", sequencePropertyKey, readWord⟩,
   ⟨"RELGRAPH_SEQUENCE_LABEL", sequenceLabelKey, readWord⟩,
   ⟨"RELGRAPH_CURSOR_SECRET", secretKey, readWord⟩,
   ⟨"RELGRAPH_MAX_PAGE_SIZE", pageSizeKey, readCount⟩,
   ⟨"RELGRAPH_REQUIRE_CONNECT_MATCH", matchKey, readSwitch⟩]

/-- The settings with what the environment says of them, and the warnings of the reading. -/
def ofEnvironment (environment : Entries String) (base : Option Features := none) :
    Except (List Issue) Features × List String :=
  let (given, warnings) :=
    overridden overrides environment ((base.map Features.entries).getD [])
  (ofEntries given, warnings)

end Features

end GraphGateway.Settings
