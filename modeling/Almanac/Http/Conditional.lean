import Almanac.Text.Affix
import Almanac.Text.Blank

/-!
# Conditional requests

A client names the tags that it knows, with commas between them. It is told that
nothing has changed if one of them is the current tag, a weak form of it, or a
star.
-/

namespace Almanac.Http

/-- A tag that a client names fits the current one. -/
def tagMatches (etag seen : List Char) : Bool :=
  seen == ['*'] || (Text.dropPrefix? ['W', '/'] seen).getD seen == etag

/-- One of the tags that a client names fits the current one. -/
def coversTag (field etag : String) : Bool :=
  ((Text.splitAtChar ',' field.toList).map Text.trim).any (tagMatches etag.toList)

/-- A field value of visible ASCII characters, spaces and tabs. Other values are not looked at. -/
def isVisible (field : String) : Bool :=
  field.toList.all fun c => c == '\t' || (0x20 ≤ c.toNat && c.toNat < 0x7F)

end Almanac.Http
