/-!
# Attributes and functions

The attributes of the entries of a tree and the functions of queries, with their canonical names.

## Main definitions

* `FileQuery.Attribute`, `FileQuery.ScalarFunction`, `FileQuery.AggregateFunction`,
  `FileQuery.Function`.
* `FileQuery.Attribute.canonicalName`, `FileQuery.Function.canonicalName`.
-/

namespace FileQuery

/-- A property of an entry that queries can read. -/
inductive Attribute where
  | name
  | path
  | absolutePath
  | directory
  | extension
  | size
  | depth
  | isDirectory
  | isFile
  | isSymlink
  | isHidden
  | mode
  | owner
  | group
  | modified
  | accessed
  | created
  | mediaType
  deriving DecidableEq, Repr

/-- The canonical name. -/
def Attribute.canonicalName : Attribute → String
  | .name => "name"
  | .path => "path"
  | .absolutePath => "abspath"
  | .directory => "dir"
  | .extension => "extension"
  | .size => "size"
  | .depth => "depth"
  | .isDirectory => "is_dir"
  | .isFile => "is_file"
  | .isSymlink => "is_symlink"
  | .isHidden => "is_hidden"
  | .mode => "mode"
  | .owner => "uid"
  | .group => "gid"
  | .modified => "modified"
  | .accessed => "accessed"
  | .created => "created"
  | .mediaType => "mime"

/-- Every attribute. -/
def Attribute.all : List Attribute :=
  [.name, .path, .absolutePath, .directory, .extension, .size, .depth, .isDirectory, .isFile,
    .isSymlink, .isHidden, .mode, .owner, .group, .modified, .accessed, .created, .mediaType]

theorem Attribute.mem_all (a : Attribute) : a ∈ Attribute.all := by
  cases a <;> decide

/-- A function of the values of one row. -/
inductive ScalarFunction where
  | lower
  | upper
  | length
  | trim
  | concat
  | substring
  | replace
  | contains
  | startsWith
  | endsWith
  | matchesPattern
  | formatSize
  | formatTime
  | year
  | month
  | day
  | abs
  | round
  | coalesce
  | isText
  | isImage
  | isPdf
  | isAudio
  | isVideo
  | isArchive
  deriving DecidableEq, Repr

/-- The canonical name. -/
def ScalarFunction.canonicalName : ScalarFunction → String
  | .lower => "lower"
  | .upper => "upper"
  | .length => "length"
  | .trim => "trim"
  | .concat => "concat"
  | .substring => "substr"
  | .replace => "replace"
  | .contains => "contains"
  | .startsWith => "startsWith"
  | .endsWith => "endsWith"
  | .matchesPattern => "matches"
  | .formatSize => "fmtSize"
  | .formatTime => "fmtTime"
  | .year => "year"
  | .month => "month"
  | .day => "day"
  | .abs => "abs"
  | .round => "round"
  | .coalesce => "coalesce"
  | .isText => "isText"
  | .isImage => "isImage"
  | .isPdf => "isPdf"
  | .isAudio => "isAudio"
  | .isVideo => "isVideo"
  | .isArchive => "isArchive"

/-- Every scalar function. -/
def ScalarFunction.all : List ScalarFunction :=
  [.lower, .upper, .length, .trim, .concat, .substring, .replace, .contains, .startsWith,
    .endsWith, .matchesPattern, .formatSize, .formatTime, .year, .month, .day, .abs, .round,
    .coalesce, .isText, .isImage, .isPdf, .isAudio, .isVideo, .isArchive]

/-- A function that folds the rows of a query into one value. -/
inductive AggregateFunction where
  | count
  | sum
  | min
  | max
  | average
  deriving DecidableEq, Repr

/-- The canonical name. -/
def AggregateFunction.canonicalName : AggregateFunction → String
  | .count => "count"
  | .sum => "sum"
  | .min => "min"
  | .max => "max"
  | .average => "avg"

/-- Every aggregate function. -/
def AggregateFunction.all : List AggregateFunction := [.count, .sum, .min, .max, .average]

/-- A function of the query language. -/
inductive Function where
  | scalar (f : ScalarFunction)
  | aggregate (f : AggregateFunction)
  deriving DecidableEq, Repr

namespace Function

/-- The canonical name. -/
def canonicalName : Function → String
  | .scalar f => f.canonicalName
  | .aggregate f => f.canonicalName

def isAggregate : Function → Bool
  | .scalar _ => false
  | .aggregate _ => true

/-- Every function, the scalar ones first. -/
def all : List Function :=
  ScalarFunction.all.map .scalar ++ AggregateFunction.all.map .aggregate

/-- The function with a canonical name. -/
def ofName? (name : String) : Option Function := all.find? (·.canonicalName == name)

end Function

/-- The attribute with a canonical name. -/
def Attribute.ofName? (name : String) : Option Attribute := all.find? (·.canonicalName == name)

end FileQuery
