import SuperhumanDocs.Json.Proof.RoundTrip

/-!
# The interface of a JSON reader

`SerdeJson` is a reader of documents of which only one thing is promised: a printed value within
the nesting limit reads back as its canonical form. The reader of `Json.Parse` is one
(`Json.Reference`).
-/

namespace Json

/-- A reader of JSON documents. -/
class SerdeJson where
  fromStr : String → Except String Value
  /-- Printed values read back. -/
  fromStr_print : ∀ v : Value, v.readable maxDepth = true → fromStr v.print = .ok v.canonicalize

namespace Reference

scoped instance : SerdeJson where
  fromStr := fromStr
  fromStr_print _ h := fromStr_print h

end Reference

end Json
