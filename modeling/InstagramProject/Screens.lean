/-
What a handler can do to the app: send requests, put blocks on the main queue,
change the fields of a controller, present and dismiss screens, and end the
process.  The presentation rules are UIKit's: presenting has an effect only
from a controller whose view is in the window and that presents nothing, and
dismissing takes away what the controller or its containers present.
-/

import InstagramProject.Firebase

namespace InstagramProject

variable {K : Platform}

def Root.updateTabs (screen : ControllerID)
    (change : TabBarController K → TabBarController K) : Root K → Root K
  | .instagram tabs => if tabs.id = screen then .instagram (change tabs) else .instagram tabs
  | .login controller => .login controller

namespace World

def send (world : World K) (request : Request K) : World K :=
  { world with requests := world.requests ++ [request] }

/-- `DispatchQueue.main.async`. -/
def async (world : World K) (block : Block K) : World K :=
  { world with mainQueue := world.mainQueue ++ [block] }

/-- The process ends, by the system or by a trap.  Requests already sent may
still take effect, but nobody waits for their answers. -/
def terminate (world : World K) : World K :=
  { world with
    requests := []
    orphans := world.orphans ++ world.requests
    responses := []
    mainQueue := []
    root := none
    presented := [] }

/-! ### Controllers -/

def isLogin (world : World K) (login : ControllerID) : Bool :=
  match world.root with
  | some (.login controller) => controller.id == login
  | _ => false

def isTabs (world : World K) (screen : ControllerID) : Bool :=
  match world.root with
  | some (.instagram tabs) => tabs.id == screen
  | _ => false

def updateTabs (world : World K) (screen : ControllerID)
    (change : TabBarController K → TabBarController K) : World K :=
  { world with root := world.root.map (Root.updateTabs screen change) }

def updateAddPhoto (world : World K) (screen : ControllerID)
    (change : AddPhotoViewController K → AddPhotoViewController K) : World K :=
  world.updateTabs screen (fun tabs => { tabs with addPhoto := tabs.addPhoto.map change })

def updateProfile (world : World K) (screen : ControllerID)
    (change : ProfileViewController → ProfileViewController) : World K :=
  world.updateTabs screen (fun tabs => { tabs with profile := tabs.profile.map change })

end World

def Screen.isEditor (editor : ControllerID) : Screen K → Bool
  | .editor controller => controller.id == editor
  | _ => false

def Screen.updateEditor (editor : ControllerID)
    (change : EditProfileViewController K → EditProfileViewController K) : Screen K → Screen K
  | .editor controller =>
      if controller.id = editor then .editor (change controller) else .editor controller
  | other => other

def World.updateEditor (world : World K) (editor : ControllerID)
    (change : EditProfileViewController K → EditProfileViewController K) : World K :=
  { world with presented := world.presented.map (Screen.updateEditor editor change) }

/-! ### Strong references held by closures -/

def Block.retainsAddPhoto (screen : ControllerID) : Block K → Bool
  | .previewPost held => held == screen
  | _ => false

def Block.retainsEditor (editor : ControllerID) : Block K → Bool
  | .previewProfilePicture held => held == editor
  | .editorAlert held _ _ => held == editor
  | _ => false

/-- `EditProfileViewController.updateUserInfo` captures self strongly. -/
def Request.retainsEditor (editor : ControllerID) : Request K → Bool
  | .updateUser _ _ held => held == editor
  | _ => false

namespace World

/-- Whether a weak reference to the Add Photo controller is non-nil. -/
def addPhotoAlive (world : World K) (screen : ControllerID) : Bool :=
  world.isTabs screen || world.mainQueue.any (Block.retainsAddPhoto screen)

def editorAlive (world : World K) (editor : ControllerID) : Bool :=
  world.presented.any (Screen.isEditor editor) ||
    world.requests.any (Request.retainsEditor editor) ||
    world.responses.any (fun response => response.1.retainsEditor editor) ||
    world.mainQueue.any (Block.retainsEditor editor)

/-! ### Presenting and dismissing -/

def presentFromLogin (world : World K) (login : ControllerID) (screen : Screen K) : World K :=
  if world.isLogin login && world.presented.isEmpty then
    { world with presented := [screen] }
  else world

def presentFromTab (world : World K) (tab : ControllerID) (index : Fin 3)
    (screen : Screen K) : World K :=
  match world.root with
  | some (.instagram tabs) =>
      if tabs.id = tab ∧ tabs.selectedIndex = index ∧ world.presented.isEmpty then
        { world with presented := [screen] }
      else world
  | _ => world

def presentFromEditor (world : World K) (editor : ControllerID) (screen : Screen K) : World K :=
  match world.presented with
  | top :: rest =>
      if top.isEditor editor then { world with presented := screen :: top :: rest } else world
  | [] => world

def dismissFromTab (world : World K) (tab : ControllerID) : World K :=
  if world.isTabs tab then { world with presented := [] } else world

/-- What the editor presents goes; if it presents nothing, the editor goes. -/
def dismissFromEditor (world : World K) (editor : ControllerID) : World K :=
  match world.presented with
  | top :: rest =>
      if top.isEditor editor then { world with presented := rest }
      else if rest.any (Screen.isEditor editor) then
        { world with presented := rest.dropWhile (fun screen => !screen.isEditor editor) }
      else world
  | [] => world

end World

end InstagramProject
