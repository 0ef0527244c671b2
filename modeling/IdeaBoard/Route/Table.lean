/-!
# IdeaBoard — the pages and their routes

The pages of the site, and the table that says which paths lead to which page. Rows are tried from
top to bottom.
-/

namespace IdeaBoard

inductive Page where
  | home
  | showIdea
  | manageMembers
  | manageTags
  | privacySettings
  | invitations
  | generalSettings
  | signIn
  | signUp
  | completeSignInProfile
  | myNotifications
  | mySettings
deriving DecidableEq, Repr, Inhabited

def Page.name : Page → String
  | .home => "Home"
  | .showIdea => "ShowIdea"
  | .manageMembers => "ManageMembers"
  | .manageTags => "ManageTags"
  | .privacySettings => "PrivacySettings"
  | .invitations => "Invitations"
  | .generalSettings => "GeneralSettings"
  | .signIn => "SignIn"
  | .signUp => "SignUp"
  | .completeSignInProfile => "CompleteSignInProfile"
  | .myNotifications => "MyNotifications"
  | .mySettings => "MySettings"

structure Route where
  id : String
  pattern : String
  page : Page
  /-- Does the page have a header? -/
  showChrome : Bool
deriving DecidableEq, Repr, Inhabited

def Route.table : List Route :=
  [⟨"home", "", .home, true⟩,
   ⟨"show-idea", "/ideas/:number*", .showIdea, true⟩,
   ⟨"admin-members", "/admin/members", .manageMembers, true⟩,
   ⟨"admin-tags", "/admin/tags", .manageTags, true⟩,
   ⟨"admin-privacy", "/admin/privacy", .privacySettings, true⟩,
   ⟨"admin-invitations", "/admin/invitations", .invitations, true⟩,
   ⟨"admin-general", "/admin", .generalSettings, true⟩,
   ⟨"signin", "/signin", .signIn, false⟩,
   ⟨"signup", "/signup", .signUp, false⟩,
   ⟨"complete-signin-profile", "/signin/verify", .completeSignInProfile, true⟩,
   ⟨"accept-invitation", "/invite/verify", .completeSignInProfile, false⟩,
   ⟨"my-notifications", "/notifications", .myNotifications, true⟩,
   ⟨"my-settings", "/settings", .mySettings, true⟩]

end IdeaBoard
