import FileQuery.Catalog.Basic

/-!
# The standard catalog

The attributes and functions that queries know, with their aliases and one-line descriptions.

## Main definitions

* `FileQuery.Catalog.standard`.
-/

namespace FileQuery.Catalog

/-- An attribute that `*` leaves out. -/
private def column (a : Attribute) (aliases : List String) (kind : Kind) (text : String) :
    AttributeEntry :=
  ⟨a, aliases, kind, text, false⟩

/-- An attribute that `*` stands for. -/
private def starColumn (a : Attribute) (aliases : List String) (kind : Kind) (text : String) :
    AttributeEntry :=
  ⟨a, aliases, kind, text, true⟩

/-- The attributes, in the order in which they are listed. -/
def standardAttributes : List AttributeEntry :=
  [starColumn .name ["filename"] .string "File name without the directory",
    starColumn .path [] .string "Path of the entry as reached from the source",
    column .absolutePath ["absolute_path", "fullpath"] .string "Absolute path of the entry",
    column .directory ["directory", "parent"] .string "Directory containing the entry",
    column .extension ["ext"] .string "File extension without the dot",
    starColumn .size ["bytes", "length_bytes"] .integer "Size in bytes",
    column .depth [] .integer
      "Nesting depth below the source directory (immediate children are 1)",
    column .isDirectory ["isdir"] .boolean "Whether the entry is a directory",
    column .isFile ["isfile"] .boolean "Whether the entry is a regular file",
    column .isSymlink ["issymlink", "symlink"] .boolean "Whether the entry is a symbolic link",
    column .isHidden ["hidden"] .boolean "Whether the entry name starts with a dot",
    starColumn .mode ["permissions", "perms"] .string "Permission string, e.g. drwxr-xr-x",
    column .owner [] .integer "Owner user id",
    column .group [] .integer "Owner group id",
    starColumn .modified ["mtime", "last_modified"] .time "Last modification time",
    column .accessed ["atime"] .time "Last access time",
    column .created ["birthtime"] .time "Creation time, where the platform records it",
    column .mediaType ["mimetype", "mime_type"] .string "MIME type guessed from the extension"]

/-- A function of one row, which predicates may use. -/
private def scalar (f : ScalarFunction) (aliases : List String) (arity : Arity) (text : String) :
    FunctionEntry :=
  ⟨.scalar f, aliases, arity, true, text⟩

/-- A function of all rows, which predicates may not use. -/
private def aggregate (f : AggregateFunction) (aliases : List String) (arity : Arity)
    (text : String) : FunctionEntry :=
  ⟨.aggregate f, aliases, arity, false, text⟩

/-- The functions, in the order in which they are listed. -/
def standardFunctions : List FunctionEntry :=
  [scalar .lower ["lcase"] (.exactly 1) "Converts a string to lowercase",
    scalar .upper ["ucase"] (.exactly 1) "Converts a string to uppercase",
    scalar .length ["len"] (.exactly 1) "Number of characters in a string",
    scalar .trim [] (.exactly 1) "Removes leading and trailing whitespace",
    scalar .concat [] (.atLeast 1) "Joins the arguments as strings, skipping nulls",
    scalar .substring ["substring"] (.between 2 3)
      "Substring from a 1-based start, optionally limited to a length",
    scalar .replace [] (.exactly 3) "Replaces every occurrence of a pattern string",
    scalar .contains [] (.exactly 2) "Whether the first string contains the second",
    scalar .startsWith ["starts_with"] (.exactly 2)
      "Whether the first string starts with the second",
    scalar .endsWith ["ends_with"] (.exactly 2) "Whether the first string ends with the second",
    scalar .matchesPattern ["regexp", "rlike"] (.exactly 2)
      "Whether the string matches a regular expression",
    scalar .formatSize ["format_size"] (.between 1 2)
      "Formats a byte count with binary units, optionally with a precision",
    scalar .formatTime ["format_time"] (.between 1 2)
      "Formats a time, optionally with a strftime pattern",
    scalar .year [] (.exactly 1) "Year of a time value",
    scalar .month [] (.exactly 1) "Month (1-12) of a time value",
    scalar .day [] (.exactly 1) "Day of month of a time value",
    scalar .abs [] (.exactly 1) "Absolute value of a number",
    scalar .round [] (.between 1 2) "Rounds a number, optionally to a number of decimal places",
    scalar .coalesce ["ifnull"] (.atLeast 1) "First argument that is not null",
    scalar .isText ["is_text"] (.exactly 1) "Whether a MIME type denotes text",
    scalar .isImage ["is_image"] (.exactly 1) "Whether a MIME type denotes an image",
    scalar .isPdf ["is_pdf"] (.exactly 1) "Whether a MIME type denotes a PDF document",
    scalar .isAudio ["is_audio"] (.exactly 1) "Whether a MIME type denotes audio",
    scalar .isVideo ["is_video"] (.exactly 1) "Whether a MIME type denotes video",
    scalar .isArchive ["is_archive"] (.exactly 1) "Whether a MIME type denotes an archive",
    aggregate .count [] (.between 0 1)
      "Number of matching entries, or of non-null argument values",
    aggregate .sum ["total"] (.exactly 1) "Sum of numeric values",
    aggregate .min [] (.exactly 1) "Smallest value",
    aggregate .max [] (.exactly 1) "Largest value",
    aggregate .average ["average", "mean"] (.exactly 1) "Average of numeric values"]

/-- The standard catalog. Its names are distinct, so that building it gives no error. -/
def standard : Catalog :=
  match ofEntries? standardAttributes standardFunctions with
  | .ok c => c
  | .error _ => empty

end FileQuery.Catalog
