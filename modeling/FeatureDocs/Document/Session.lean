import FeatureDocs.Document.Outcome

/-!
# Sessions

Documents that are parsed one after the other with the same keywords, their features being
collected in one list.
-/

namespace FeatureDocs

/-- What is kept from one document to the next. -/
structure Session where
  keywords : KeywordTable
  collected : List Feature := []
  last : Outcome := {}

namespace Session

/-- Parse one more document. -/
def parse (s : Session) (resolver : Option Resolver) (document : Source) (source : Text) :
    Session × Parsing :=
  let parsing := s.keywords.parse resolver document source
  ({ s with
      collected := s.collected ++ parsing.outcome.features
      last := parsing.outcome },
    parsing)

/-- Forget the features that were collected. -/
def clear (s : Session) : Session := { s with collected := [] }

end Session

end FeatureDocs
