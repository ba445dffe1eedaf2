/-!
# Configuration keys

A key is a dotted name. It lies under a filter if the filter is the key itself or ends at one of its
dots.
-/

namespace CommandVerbs.Config

/-- Whether the key is the filter or continues it after a dot. -/
def keyMatches (key filter : String) : Bool :=
  key == filter || (filter.toList ++ ['.']).isPrefixOf key.toList

/-- Whether the key lies under a filter that may be absent. -/
def selected (filter : Option String) (key : String) : Bool :=
  filter.all (keyMatches key)

end CommandVerbs.Config
