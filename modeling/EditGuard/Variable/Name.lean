/-!
# Names of variables

The variables that a host may provide, those that were renamed, and those that
are no longer available.  Names do not distinguish ASCII upper and lower case.
-/

namespace EditGuard.Variable

/-- The form under which a name is kept. -/
def fold (name : String) : String :=
  name.map Char.toLower

/-- The variables that a host may provide. -/
def provided : List String :=
  ["action", "timestamp", "wiki_name", "wiki_language", "accountname", "reason",
    "summary", "user_editcount", "user_name", "user_type", "user_emailconfirm", "user_age",
    "user_groups", "user_rights", "user_blocked", "user_unnamed_ip", "user_mobile",
    "user_app", "page_id", "page_namespace", "page_title", "page_prefixedtitle",
    "page_age", "page_first_contributor", "page_recent_contributors",
    "page_restrictions_edit", "page_restrictions_move", "page_restrictions_create",
    "page_restrictions_upload", "page_last_edit_age", "moved_from_id",
    "moved_from_namespace", "moved_from_title", "moved_from_prefixedtitle",
    "moved_from_restrictions_edit", "moved_from_restrictions_move",
    "moved_from_restrictions_create", "moved_from_restrictions_upload",
    "moved_from_recent_contributors", "moved_from_first_contributor", "moved_from_age",
    "moved_from_last_edit_age", "moved_to_id", "moved_to_namespace", "moved_to_title",
    "moved_to_prefixedtitle", "moved_to_restrictions_edit", "moved_to_restrictions_move",
    "moved_to_restrictions_create", "moved_to_restrictions_upload",
    "moved_to_recent_contributors", "moved_to_first_contributor", "moved_to_age",
    "moved_to_last_edit_age", "old_wikitext", "new_wikitext", "edit_diff", "edit_diff_pst",
    "new_size", "old_size", "edit_delta", "added_lines", "removed_lines",
    "added_lines_pst", "new_pst", "new_text", "new_html", "added_links", "removed_links",
    "all_links", "old_links", "old_content_model", "new_content_model", "file_sha1",
    "file_size", "file_mime", "file_mediatype", "file_width", "file_height",
    "file_bits_per_pixel"]

/-- The old and new names of renamed variables. -/
def renamed : List (String × String) :=
  [("article_text", "page_title"), ("article_prefixedtext", "page_prefixedtitle"),
    ("article_namespace", "page_namespace"), ("article_articleid", "page_id"),
    ("article_restrictions_edit", "page_restrictions_edit"),
    ("article_restrictions_move", "page_restrictions_move"),
    ("article_restrictions_create", "page_restrictions_create"),
    ("article_restrictions_upload", "page_restrictions_upload"),
    ("article_recent_contributors", "page_recent_contributors"),
    ("article_first_contributor", "page_first_contributor"),
    ("moved_from_text", "moved_from_title"),
    ("moved_from_prefixedtext", "moved_from_prefixedtitle"),
    ("moved_from_articleid", "moved_from_id"), ("moved_to_text", "moved_to_title"),
    ("moved_to_prefixedtext", "moved_to_prefixedtitle"),
    ("moved_to_articleid", "moved_to_id"), ("old_text", "old_wikitext")]

/-- Variables that are no longer available. -/
def withdrawn : List String :=
  ["old_html", "minor_edit"]

/-- The new name of a renamed variable. -/
def replacement? (name : String) : Option String :=
  renamed.lookup name

/-- The name under which a variable is known now. -/
def currentName (name : String) : String :=
  (replacement? name).getD name

/-- Whether a host may provide a variable, under this name or a newer one. -/
def isBuiltin (name : String) : Bool :=
  provided.contains name || (replacement? name).isSome

def isWithdrawn (name : String) : Bool :=
  withdrawn.contains name

end EditGuard.Variable
