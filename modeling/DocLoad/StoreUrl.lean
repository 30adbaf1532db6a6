import DocLoad.Text.Split

/-!
# DocLoad.StoreUrl — which store a URL points to

A store URL starts with a known scheme.  `StoreUrl.normalize?` completes what an operator typed: a
text without `://` is taken for the host of a MongoDB deployment.
-/

namespace DocLoad

/-- The kinds of stores. -/
inductive Scheme where
  /-- A MongoDB deployment. -/
  | mongo
  /-- The store in memory; nothing survives the run. -/
  | memory
deriving DecidableEq, Repr

/-- The name of a kind of store. -/
def Scheme.name : Scheme → String
  | mongo => "mongodb"
  | memory => "memory"

namespace StoreUrl

/-- The URL that stands for a blank one. -/
def default : String := "mongodb://localhost:27017"

/-- Whether a text starts with another. -/
def startsWith (start s : String) : Bool :=
  start.toList.isPrefixOf s.toList

/-- The store that a URL points to. -/
def scheme? (url : String) : Option Scheme :=
  if startsWith "mongodb://" url || startsWith "mongodb+srv://" url then some .mongo
  else if startsWith "memory://" url then some .memory
  else none

/-- The full URL for what an operator typed; nothing for an unknown scheme. -/
def normalize? (url : String) : Option String :=
  if (scheme? url).isSome then some url
  else if Text.containsSub "://".toList url.toList then none
  else some ("mongodb://" ++ url)

end StoreUrl
end DocLoad
