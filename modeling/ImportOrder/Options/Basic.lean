/-! The options of a sort. -/

namespace ImportOrder

/-- A bucket of imports and the way its members are ordered. -/
structure Group where
  bucket : String
  algorithm : String
deriving DecidableEq, Repr

/-- The names of the buckets. -/
structure BucketNames where
  vendor : String
  project : String
  relative : String
  asset : String
  rest : String

/-- Buckets: packages, project files by name, project files by relative path, files with an
extension, and what no other bucket takes. -/
def Bucket : BucketNames := ⟨"global", "local", "relative", "static", "rest"⟩

/-- The names of the ways to order a bucket. -/
structure AlgorithmNames where
  natural : String
  persist : String

/-- By the natural order of module names, or as in the source. -/
def Algorithm : AlgorithmNames := ⟨"natural", "persist"⟩

/-- Which project file tells local from foreign modules. -/
structure ResolverOptions where
  type : String := "package"
  configName : String := "tsconfig.json"
deriving DecidableEq, Repr

/-- Whether and where sorts are logged. -/
structure LoggingOptions where
  enabled : Bool := false
  directory : String := ""
deriving DecidableEq, Repr

/-- The groups of a sort that names none. -/
def defaultGroups : List Group :=
  [Bucket.vendor, Bucket.project, Bucket.relative, Bucket.asset, Bucket.rest].map
    fun bucket => ⟨bucket, Algorithm.persist⟩

/-- The options of a sort, with their defaults. -/
structure Options where
  commentMode : String := "prev-line"
  location : String := "auto"
  groups : List Group := defaultGroups
  splitRelative : Bool := true
  relativeOrder : String := "deepest-first"
  lineEnd : String := "auto"
  resolver : ResolverOptions := {}
  splitPattern : String := ""
  logging : LoggingOptions := {}
deriving DecidableEq, Repr

end ImportOrder
