/-!
# The special pages every wiki has

The names of the pages that come with a wiki, by what they are for. The page for searching is not
among them, since a wiki may do without it.
-/

namespace WikiEntry.SpecialPage

namespace Core

def maintenance : List String :=
  ["BrokenRedirects", "Deadendpages", "DoubleRedirects", "Longpages", "Ancientpages",
    "Lonelypages", "Fewestrevisions", "Withoutinterwiki", "Protectedpages", "Protectedtitles",
    "Shortpages", "Uncategorizedcategories", "Uncategorizedimages", "Uncategorizedpages",
    "Uncategorizedtemplates", "Unusedcategories", "Unusedimages", "Unusedtemplates",
    "Unwatchedpages", "Wantedcategories", "Wantedfiles", "Wantedpages", "Wantedtemplates"]

def lists : List String :=
  ["Allpages", "Prefixindex", "Categories", "Listredirects", "PagesWithProp",
    "TrackingCategories"]

def accounts : List String :=
  ["Userlogin", "Userlogout", "CreateAccount", "LinkAccounts", "UnlinkAccounts",
    "ChangeCredentials", "RemoveCredentials"]

def users : List String :=
  ["Activeusers", "Block", "Unblock", "BlockList", "AutoblockList", "ChangePassword",
    "BotPasswords", "PasswordReset", "DeletedContributions", "Preferences", "ResetTokens",
    "Contributions", "Listgrouprights", "Listgrants", "Listusers", "Listadmins", "Listbots",
    "Userrights", "EditWatchlist", "PasswordPolicies"]

def changes : List String :=
  ["Newimages", "Log", "Watchlist", "Newpages", "Recentchanges", "Recentchangeslinked", "Tags"]

def files : List String :=
  ["Listfiles", "Filepath", "MediaStatistics", "MIMEsearch", "FileDuplicateSearch", "Upload",
    "UploadStash", "ListDuplicatedFiles"]

def tools : List String :=
  ["ApiSandbox", "Statistics", "Allmessages", "Version", "Lockdb", "Unlockdb"]

/-- Pages that lead to other pages. -/
def shortcuts : List String :=
  ["LinkSearch", "Randompage", "RandomInCategory", "Randomredirect", "Randomrootpage",
    "GoToInterwiki"]

def popular : List String :=
  ["Mostlinkedcategories", "Mostimages", "Mostinterwikis", "Mostlinked", "Mostlinkedtemplates",
    "Mostcategories", "Mostrevisions"]

def pageTools : List String :=
  ["ComparePages", "Export", "Import", "Undelete", "Whatlinkshere", "MergeHistory",
    "ExpandTemplates"]

def other : List String :=
  ["Booksources"]

/-- Pages that no list shows. -/
def unlisted : List String :=
  ["ApiHelp", "Badtitle", "Blankpage", "Diff", "EditTags", "Emailuser", "Movepage",
    "Mycontributions", "MyLanguage", "Mypage", "Mytalk", "Myuploads", "AllMyUploads",
    "PermanentLink", "Redirect", "Revisiondelete", "RunJobs", "Specialpages", "PageData"]

end Core

/-- The names of all special pages that every wiki has. -/
def core : List String :=
  Core.maintenance ++ Core.lists ++ Core.accounts ++ Core.users ++ Core.changes ++ Core.files ++
    Core.tools ++ Core.shortcuts ++ Core.popular ++ Core.pageTools ++ Core.other ++ Core.unlisted

def search : String := "Search"

/-- The page shown in place of a page whose title is malformed. -/
def badTitle : String := "Badtitle"

end WikiEntry.SpecialPage
