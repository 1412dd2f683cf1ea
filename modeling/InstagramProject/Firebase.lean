/-
What the Firebase services do with one request.  A request either fails and changes
nothing, or takes effect at once and as a whole; the answer travels back separately.
Outside Firestore the answer can be lost after the request took effect, and the
client then reports a failure: Firestore sends a write again until it is answered.
-/

import InstagramProject.LocalDocuments

namespace InstagramProject

variable {K : Platform}

/-- Uids are unique and nonempty and have no slash, an address has at most one
account, and the password is one the service accepts. -/
def Firebase.Accepts (firebase : Firebase K) (uid : UID) (email password : String) : Prop :=
  uid ≠ "" ∧ SlashFree uid ∧ K.acceptsPassword password = true ∧
    ∀ account ∈ firebase.accounts, account.uid ≠ uid ∧ account.email ≠ K.keptEmail email

instance (firebase : Firebase K) (uid : UID) (email password : String) :
    Decidable (firebase.Accepts uid email password) :=
  inferInstanceAs (Decidable (_ ∧ _ ∧ _ ∧ _))

def Firebase.findAccount (firebase : Firebase K) (email password : String) : Option Account :=
  firebase.accounts.find? (fun account =>
    account.email == K.keptEmail email && account.password == password)

/-- The effect of a request and its answer; `none` when the service cannot answer
so.  Documents are read from the client. -/
def Firebase.carryOut (firebase : Firebase K) (localUser : UID → Option Document)
    (request : Request K) (newUID : UID) : Option (Firebase K × Answer) :=
  match request with
  | .createUser email password _ =>
      if firebase.Accepts newUID email password then
        some ({ firebase with
          accounts := firebase.accounts ++
            [{ uid := newUID, email := K.keptEmail email, password := password }] },
          .account newUID (some (K.keptEmail email)))
      else none
  | .signIn email password _ =>
      (firebase.findAccount email password).map
        (fun account => (firebase, .account account.uid (some account.email)))
  | .setUser uid fields _ _ =>
      some ({ firebase with
        users := Function.update firebase.users uid (some (Document.setData fields)) }, .done)
  | .getUser uid _ => some (firebase, .snapshot (localUser uid))
  | .updateUser uid fields _ =>
      (firebase.users uid).map (fun document =>
        ({ firebase with
          users := Function.update firebase.users uid
            (some (document.updateData fields)) }, .done))
  | .setPost documentID fields _ _ _ =>
      some ({ firebase with
        posts := Function.update firebase.posts documentID
          (some (Document.setData fields)) }, .done)
  | .putData reference imageData _ =>
      some ({ firebase with
        storage := Function.update firebase.storage reference
          (some { data := imageData, version := firebase.nextVersion })
        nextVersion := firebase.nextVersion + 1 }, .done)
  | .downloadURL reference _ =>
      (firebase.storage reference).map (fun object =>
        (firebase, .url { path := reference, version := object.version }))
  | .updatePost documentID fields _ _ =>
      (firebase.posts documentID).map (fun document =>
        ({ firebase with
          posts := Function.update firebase.posts documentID
            (some (document.updateData fields)) }, .done))
  | .commitChanges uid photoURL _ _ =>
      some ({ firebase with
        photoURL := Function.update firebase.photoURL uid (some photoURL) }, .done)

/-- The client may report a failure although the request took effect: `createUser`
when the account's token or data cannot be fetched or the keychain refuses it,
`putData` and `commitChanges` when the answer does not come or cannot be kept. -/
def Request.losesAnswer : Request K → Bool
  | .createUser _ _ _ | .putData _ _ _ | .commitChanges _ _ _ _ => true
  | _ => false

def Firebase.perform (firebase : Firebase K) (localUser : UID → Option Document)
    (request : Request K) (outcome : Outcome) : Option (Firebase K × Answer) :=
  match outcome with
  | .failure message => some (firebase, .error message)
  | .success newUID => firebase.carryOut localUser request newUID
  | .unconfirmed newUID message =>
      if request.losesAnswer then
        (firebase.carryOut localUser request newUID).map
          (fun (firebase, _answer) => (firebase, .error message))
      else none

theorem Firebase.error_of_unconfirmed {firebase after : Firebase K}
    {localUser : UID → Option Document} {request : Request K} {newUID : UID} {message : String}
    {answer : Answer}
    (performed : firebase.perform localUser request (.unconfirmed newUID message) =
      some (after, answer)) : answer = .error message := by
  obtain ⟨_loses, result⟩ := Option.ite_none_right_eq_some.mp performed
  obtain ⟨_, _carriedOut, lost⟩ := Option.map_eq_some_iff.mp result
  exact (Prod.mk.inj lost).2.symm

/-- `perform` as a relation, one constructor for each thing a service does. -/
inductive Performed (firebase : Firebase K) (localUser : UID → Option Document) :
    Request K → Outcome → Firebase K → Answer → Prop
  | refused {request : Request K} {message : String} :
      Performed firebase localUser request (.failure message) firebase (.error message)
  | createUser {email password : String} {login : ControllerID} {newUID : UID} :
      firebase.Accepts newUID email password →
      Performed firebase localUser (.createUser email password login) (.success newUID)
        { firebase with
          accounts := firebase.accounts ++
            [{ uid := newUID, email := K.keptEmail email, password := password }] }
        (.account newUID (some (K.keptEmail email)))
  | signIn {email password : String} {login : ControllerID} {newUID : UID} {account : Account} :
      account ∈ firebase.accounts →
      Performed firebase localUser (.signIn email password login) (.success newUID) firebase
        (.account account.uid (some account.email))
  | setUser {uid newUID : UID} {fields : Fields} {login : ControllerID} {writer : Option UID} :
      Performed firebase localUser (.setUser uid fields login writer) (.success newUID)
        { firebase with
          users := Function.update firebase.users uid (some (Document.setData fields)) } .done
  | getUser {uid newUID : UID} {caller : FetchCaller} :
      Performed firebase localUser (.getUser uid caller) (.success newUID) firebase
        (.snapshot (localUser uid))
  | updateUser {uid newUID : UID} {fields : Fields} {editor : ControllerID}
      {document : Document} :
      firebase.users uid = some document →
      Performed firebase localUser (.updateUser uid fields editor) (.success newUID)
        { firebase with
          users := Function.update firebase.users uid (some (document.updateData fields)) } .done
  | setPost {documentID : String} {newUID : UID} {fields : Fields} {resizeImage : K.Image}
      {screen : ControllerID} {writer : Option UID} :
      Performed firebase localUser (.setPost documentID fields resizeImage screen writer)
        (.success newUID)
        { firebase with
          posts := Function.update firebase.posts documentID
            (some (Document.setData fields)) } .done
  | putData {reference : String} {newUID : UID} {imageData : K.Data} {caller : UploadCaller} :
      Performed firebase localUser (.putData reference imageData caller) (.success newUID)
        { firebase with
          storage := Function.update firebase.storage reference
            (some { data := imageData, version := firebase.nextVersion })
          nextVersion := firebase.nextVersion + 1 } .done
  | downloadURL {reference : String} {newUID : UID} {caller : UploadCaller}
      {object : StoredObject K} :
      firebase.storage reference = some object →
      Performed firebase localUser (.downloadURL reference caller) (.success newUID) firebase
        (.url { path := reference, version := object.version })
  | updatePost {documentID : String} {newUID : UID} {fields : Fields} {screen : ControllerID}
      {writer : Option UID} {document : Document} :
      firebase.posts documentID = some document →
      Performed firebase localUser (.updatePost documentID fields screen writer) (.success newUID)
        { firebase with
          posts := Function.update firebase.posts documentID
            (some (document.updateData fields)) } .done
  | commitChanges {uid newUID : UID} {photoURL : URL} {editor : ControllerID} {captured : Bool} :
      Performed firebase localUser (.commitChanges uid photoURL editor captured) (.success newUID)
        { firebase with
          photoURL := Function.update firebase.photoURL uid (some photoURL) } .done
  | unconfirmed {request : Request K} {newUID : UID} {message : String} {after : Firebase K}
      {answer : Answer} :
      request.losesAnswer = true →
      Performed firebase localUser request (.success newUID) after answer →
      Performed firebase localUser request (.unconfirmed newUID message) after (.error message)

private theorem performed_of_carryOut {firebase after : Firebase K}
    {localUser : UID → Option Document} {request : Request K} {newUID : UID} {answer : Answer}
    (carriedOut : firebase.carryOut localUser request newUID = some (after, answer)) :
    Performed firebase localUser request (.success newUID) after answer := by
  cases request with
  | createUser email password login =>
      simp only [Firebase.carryOut, Option.ite_none_right_eq_some] at carriedOut
      cases carriedOut.2
      exact .createUser carriedOut.1
  | signIn email password login =>
      obtain ⟨account, found, result⟩ := Option.map_eq_some_iff.mp carriedOut
      cases result
      exact .signIn (List.mem_of_find?_eq_some found)
  | updateUser uid fields editor =>
      obtain ⟨document, found, result⟩ := Option.map_eq_some_iff.mp carriedOut
      cases result
      exact .updateUser found
  | downloadURL reference caller =>
      obtain ⟨object, found, result⟩ := Option.map_eq_some_iff.mp carriedOut
      cases result
      exact .downloadURL found
  | updatePost documentID fields screen writer =>
      obtain ⟨document, found, result⟩ := Option.map_eq_some_iff.mp carriedOut
      cases result
      exact .updatePost found
  | setUser uid fields login writer =>
      cases carriedOut
      exact .setUser
  | getUser uid caller =>
      cases carriedOut
      exact .getUser
  | setPost documentID fields resizeImage screen writer =>
      cases carriedOut
      exact .setPost
  | putData reference imageData caller =>
      cases carriedOut
      exact .putData
  | commitChanges uid photoURL editor captured =>
      cases carriedOut
      exact .commitChanges

theorem performed_of_perform {firebase after : Firebase K} {localUser : UID → Option Document}
    {request : Request K} {outcome : Outcome} {answer : Answer}
    (performed : firebase.perform localUser request outcome = some (after, answer)) :
    Performed firebase localUser request outcome after answer := by
  cases outcome with
  | failure message =>
      cases performed
      exact .refused
  | success newUID => exact performed_of_carryOut performed
  | unconfirmed newUID message =>
      unfold Firebase.perform at performed
      obtain ⟨loses, result⟩ := Option.ite_none_right_eq_some.mp performed
      obtain ⟨⟨changed, lost⟩, carriedOut, same⟩ := Option.map_eq_some_iff.mp result
      cases same
      exact .unconfirmed loses (performed_of_carryOut carriedOut)

end InstagramProject
