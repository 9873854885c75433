import BuildHerald.Text.Charset.Page.Table
import BuildHerald.Text.Charset.Stretch

namespace BuildHerald.Text.Charset.Page

/-- The text of a byte sequence. -/
def decode (page : Page) (bytes : List UInt8) : List Char :=
  let upper := Index.ofStretches [⟨0, page.text⟩]
  bytes.map fun b =>
    if b.toNat < page.first then Char.ofNat b.toNat
    else (upper.get? (b.toNat - page.first)).getD lost

end BuildHerald.Text.Charset.Page
