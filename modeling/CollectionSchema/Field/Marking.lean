import CollectionSchema.Field.Basic
import CollectionSchema.Text.Decimal
import CollectionSchema.Text.Flag

/-! # Markings

A record type marks those of its members that belong to the schema: a role token
and metadata, whose entries are tokens too. Reading a marking gives a field.
-/

namespace CollectionSchema

/-! ## Metadata -/

/-- Entries in byte order of their keys, no key listed twice. -/
structure Metadata where
  entries : List (Text × Text)
  sorted : entries.Pairwise fun left right => left.1 < right.1

namespace Metadata

def empty : Metadata := ⟨[], .nil⟩

instance : Inhabited Metadata := ⟨empty⟩

/-- Inserts before the first greater key; an entry of the same key gives way. -/
def insertEntry (key value : Text) : List (Text × Text) → List (Text × Text)
  | [] => [(key, value)]
  | (other, held) :: rest =>
      if key < other then (key, value) :: (other, held) :: rest
      else if key = other then (key, value) :: rest
      else (other, held) :: insertEntry key value rest

theorem mem_insertEntry {key value : Text} {entries : List (Text × Text)}
    {entry : Text × Text} (member : entry ∈ insertEntry key value entries) :
    entry = (key, value) ∨ entry ∈ entries := by
  induction entries with
  | nil => simpa [insertEntry] using member
  | cons head rest induction =>
      rcases head with ⟨other, held⟩
      simp only [insertEntry] at member
      split at member
      · simpa using member
      · split at member
        · rcases List.mem_cons.mp member with new | old
          · exact .inl new
          · exact .inr (List.mem_cons_of_mem _ old)
        · rcases List.mem_cons.mp member with first | later
          · exact .inr (first ▸ List.mem_cons_self)
          · exact (induction later).imp_right (List.mem_cons_of_mem _)

theorem sorted_insertEntry (key value : Text) {entries : List (Text × Text)}
    (sorted : entries.Pairwise fun left right => left.1 < right.1) :
    (insertEntry key value entries).Pairwise fun left right => left.1 < right.1 := by
  induction entries with
  | nil => simp [insertEntry]
  | cons head rest induction =>
      rcases head with ⟨other, held⟩
      rcases List.pairwise_cons.mp sorted with ⟨below, restSorted⟩
      simp only [insertEntry]
      split
      · rename_i less
        refine List.pairwise_cons.mpr ⟨?_, sorted⟩
        intro entry member
        rcases List.mem_cons.mp member with first | later
        · exact first ▸ less
        · exact Text.lt_trans less (below entry later)
      · rename_i notLess
        split
        · rename_i equal
          exact List.pairwise_cons.mpr ⟨fun entry later => equal ▸ below entry later, restSorted⟩
        · rename_i different
          refine List.pairwise_cons.mpr ⟨?_, induction restSorted⟩
          intro entry member
          rcases mem_insertEntry member with new | old
          · exact new ▸ Text.lt_of_not_lt_of_ne notLess different
          · exact below entry old

def insert (metadata : Metadata) (key value : Text) : Metadata :=
  ⟨insertEntry key value metadata.entries, sorted_insertEntry key value metadata.sorted⟩

def ofList (entries : List (Text × Text)) : Metadata :=
  entries.foldl (fun metadata entry => metadata.insert entry.1 entry.2) empty

def get? (metadata : Metadata) (key : Text) : Option Text := Dictionary.get? key metadata.entries

end Metadata

/-! ## Members of a record type -/

/-- The role token is not read yet, nor are the metadata entries. -/
structure Marking where
  role : Text
  metadata : Metadata

/-- A member as its record type publishes it. One without a marking is no field. -/
structure FieldDescriptor where
  name : Text := .empty
  declaredType : FieldType := .unknown
  marking? : Option Marking := none
  default? : Option Default := none

/-! ## Metadata entries -/

/-- What one metadata entry tells about a field. -/
inductive Attribute
  | storage (name : Text)
  | type (known : FieldType)
  | dimensions (count : UInt64)
  | indexKind (token : Text)
  | distanceFunction (token : Text)
  | fullTextIndexed (flag : Bool)
  | filterable (flag : Bool)
deriving DecidableEq

inductive EntryError
  | token (error : TokenError)
  | emptyName
  | dimensions (text : Text)
  | flag (key text : Text)
  | misplaced (key : Text) (role : Role)
  | unknownKey (key : Text)
deriving DecidableEq

def EntryError.message : EntryError → Text
  | token error => error.message
  | emptyName => "name must not be empty."
  | dimensions text => "dimensions must be a positive integer, got '" ++ text ++ "'."
  | flag key text => key ++ " must be a boolean, got '" ++ text ++ "'."
  | misplaced key role =>
      "metadata key '" ++ key ++ "' is not valid for a " ++ role.name ++ " field."
  | unknownKey key => "unrecognized metadata key '" ++ key ++ "'."

namespace Attribute

/-- An entry for the fields of one role only. -/
def forRole (expected role : Role) (key : Text) (reading : Except EntryError Attribute) :
    Except EntryError Attribute :=
  if role = expected then reading else .error (.misplaced key role)

def readDimensions (text : Text) : Except EntryError Attribute :=
  match text.integer? with
  | some count =>
      if 0 < count.toInt then .ok (.dimensions count.toUInt64) else .error (.dimensions text)
  | none => .error (.dimensions text)

def readFlag (key text : Text) (meaning : Bool → Attribute) : Except EntryError Attribute :=
  match text.flag? with
  | some flag => .ok (meaning flag)
  | none => .error (.flag key text)

def read (role : Role) (key text : Text) : Except EntryError Attribute :=
  if key = "name" then
    if text.isEmpty then .error .emptyName else .ok (.storage text)
  else if key = "type" then
    match FieldType.read role text with
    | .ok known => .ok (.type known)
    | .error error => .error (.token error)
  else if key = "dimensions" then forRole .vector role key (readDimensions text)
  else if key = "indexKind" then forRole .vector role key (.ok (.indexKind text))
  else if key = "distanceFunction" then forRole .vector role key (.ok (.distanceFunction text))
  else if key = "isFullTextIndexed" then
    forRole .data role key (readFlag key text .fullTextIndexed)
  else if key = "isFilterable" then forRole .data role key (readFlag key text .filterable)
  else .error (.unknownKey key)

def applyTo (field : Field) : Attribute → Field
  | storage name => { field with storage := name }
  | type known => { field with type := known }
  | dimensions count => { field with dimensions := count }
  | indexKind token => { field with indexKind := token }
  | distanceFunction token => { field with distanceFunction := token }
  | fullTextIndexed flag => { field with fullTextIndexed := flag }
  | filterable flag => { field with filterable := flag }

end Attribute

/-! ## From a member to a field -/

inductive MarkingError
  | unmarked (member : Text)
  | rejected (member : Text) (cause : EntryError)
deriving DecidableEq

namespace MarkingError

def message : MarkingError → Text
  | unmarked member => "Field '" ++ member ++ "' has no annotation."
  | rejected member cause => "Field '" ++ member ++ "': " ++ cause.message

def status (error : MarkingError) : Status := .failure .schema error.message

end MarkingError

/-- The attributes in the order of their keys. -/
def Metadata.attributes (metadata : Metadata) (role : Role) :
    Except EntryError (List Attribute) :=
  metadata.entries.mapM fun entry => Attribute.read role entry.1 entry.2

namespace FieldDescriptor

/-- Without a type entry the field has the declared type. With one, a member
that is declared to hold a vector or its text still may. -/
def typed (descriptor : FieldDescriptor) (explicit : Bool) (field : Field) : Field :=
  if !explicit then { field with type := descriptor.declaredType }
  else if descriptor.declaredType.isVectorOrText then
    { field with type := field.type.withSourceText }
  else field

def fieldOfMarking (descriptor : FieldDescriptor) (marking : Marking) :
    Except EntryError Field := do
  let role ← (Role.read marking.role).mapError .token
  let attributes ← marking.metadata.attributes role
  let bare : Field :=
    { role, property := descriptor.name, default? := descriptor.default? }
  return descriptor.typed (marking.metadata.get? "type").isSome
    (attributes.foldl Attribute.applyTo bare)

def field (descriptor : FieldDescriptor) : Except MarkingError Field :=
  match descriptor.marking? with
  | none => .error (.unmarked descriptor.name)
  | some marking => (descriptor.fieldOfMarking marking).mapError (.rejected descriptor.name)

/-- The fields of the marked members, in order; other members are passed over. -/
def fields (descriptors : List FieldDescriptor) : Except MarkingError (List Field) :=
  (descriptors.filter (·.marking?.isSome)).mapM field

end FieldDescriptor

end CollectionSchema
