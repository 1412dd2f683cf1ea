/-
Firestore documents as the app writes and reads them.  A document maps field
names to values; `setData` replaces it and `updateData` overwrites the given
fields.  `InstagramUser` and `InstagramPost` are decoded from a document with a
stand-in for every field that is absent or is not a string.
-/

import Mathlib.Logic.Function.Basic

namespace InstagramProject

/-- A field value as far as the decoders look at it: `as? String` accepts the
first kind only. -/
inductive FieldValue
  | string (value : String)
  | other
deriving DecidableEq

/-- `[String: Any]`. -/
abbrev Document := String → Option FieldValue

/-- The dictionary literal handed to `setData` or `updateData`. -/
abbrev Fields := List (String × String)

namespace Document

/-- `dictionary[key] as? String`. -/
def string? (document : Document) (key : String) : Option String :=
  match document key with
  | some (.string value) => some value
  | _ => none

/-- The document stored by `setData(fields)`. -/
def setData (fields : Fields) : Document :=
  fun key => (fields.lookup key).map .string

/-- The document stored by `updateData(fields)` over an existing one. -/
def updateData (document : Document) (fields : Fields) : Document :=
  fun key =>
    match fields.lookup key with
    | some value => some (.string value)
    | none => document key

theorem updateData_of_lookup_none {document : Document} {fields : Fields} {key : String}
    (absent : fields.lookup key = none) :
    updateData document fields key = document key := by
  simp only [updateData, absent]

theorem updateData_of_lookup_some {document : Document} {fields : Fields} {key value : String}
    (present : fields.lookup key = some value) :
    updateData document fields key = some (.string value) := by
  simp only [updateData, present]

/-- An update never removes a field. -/
theorem updateData_ne_none {document : Document} (fields : Fields) {key : String}
    (present : document key ≠ none) : updateData document fields key ≠ none := by
  cases looked : fields.lookup key with
  | none =>
      rw [updateData_of_lookup_none looked]
      exact present
  | some value =>
      rw [updateData_of_lookup_some looked]
      exact Option.some_ne_none _

end Document

structure InstagramUser where
  username : String
  userBio : String
  userId : String
  userFullName : String
  userEmail : String
deriving DecidableEq

/-- `InstagramUser.init(_ dictionary:)`. -/
def InstagramUser.ofDocument (dictionary : Document) : InstagramUser :=
  { username := (dictionary.string? "username").getD "no username"
    userBio := (dictionary.string? "userBio").getD "no bio"
    userId := (dictionary.string? "userId").getD "no id"
    userFullName := (dictionary.string? "userFullName").getD "no name"
    userEmail := (dictionary.string? "userEmail").getD "no email" }

/-- What `fetchCurrentUser` returns for a document that does not exist. -/
def InstagramUser.empty : InstagramUser :=
  { username := "", userBio := "", userId := "", userFullName := "", userEmail := "" }

structure InstagramPost where
  username : String
  userId : String
  caption : String
  photoURL : String
deriving DecidableEq

/-- `InstagramPost.init(_ dictionary:)`. -/
def InstagramPost.ofDocument (dictionary : Document) : InstagramPost :=
  { username := (dictionary.string? "username").getD "no username"
    userId := (dictionary.string? "userId").getD "no user id"
    caption := (dictionary.string? "caption").getD "caption"
    photoURL := (dictionary.string? "photoURL").getD "photo" }

end InstagramProject
