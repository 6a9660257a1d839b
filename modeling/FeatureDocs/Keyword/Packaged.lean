import FeatureDocs.Keyword.Dataset

/-!
# The packaged keywords

The dataset that is used when no other one is given. A longer keyword stands before every keyword
that it begins with.
-/

namespace FeatureDocs.Dataset

/-- The keywords of English. -/
def english : LanguageEntry :=
  [(.feature, ["Feature:", "Business Need:", "Ability:"]), (.background, ["Background:"]),
   (.scenario, ["Scenario:", "Example:"]), (.outline, ["Scenario Outline:", "Scenario Template:"]),
   (.context, ["Given"]), (.conjunction, ["And", "But"]), (.action, ["When"]),
   (.outcome, ["Then"]), (.examples, ["Examples:", "Scenarios:"])]

/-- The keywords of Russian. -/
def russian : LanguageEntry :=
  [(.feature, ["Функциональность:", "Функционал:", "Функция:", "Свойство:"]),
   (.background, ["Предыстория:", "Контекст:"]), (.scenario, ["Сценарий:"]),
   (.outline, ["Структура сценария:"]), (.context, ["Допустим", "Дано", "Пусть"]),
   (.conjunction, ["К тому же", "Также", "И ", "Но "]), (.action, ["Когда", "Если"]),
   (.outcome, ["Тогда", "То ", "Затем"]), (.examples, ["Примеры:"])]

/-- The keywords of German. -/
def german : LanguageEntry :=
  [(.feature, ["Funktionalität:", "Funktion:"]), (.background, ["Grundlage:", "Hintergrund:"]),
   (.scenario, ["Szenario:", "Beispiel:"]), (.outline, ["Szenariogrundriss:", "Szenariovorlage:"]),
   (.context, ["Angenommen", "Gegeben seien", "Gegeben sei"]), (.conjunction, ["Und", "Aber"]),
   (.action, ["Wenn"]), (.outcome, ["Dann"]), (.examples, ["Beispiele:"])]

/-- The keywords of French. -/
def french : LanguageEntry :=
  [(.feature, ["Fonctionnalité:"]), (.background, ["Contexte:"]),
   (.scenario, ["Scénario:", "Exemple:"]), (.outline, ["Plan du scénario:"]),
   (.context, ["Étant donné que", "Etant donné que", "Étant donné", "Etant donné", "Soit"]),
   (.conjunction, ["Et que", "Et ", "Mais que", "Mais "]),
   (.action, ["Lorsque", "Lorsqu'", "Quand"]), (.outcome, ["Alors"]), (.examples, ["Exemples:"])]

/-- The keywords of Spanish. -/
def spanish : LanguageEntry :=
  [(.feature, ["Característica:", "Necesidad del negocio:"]), (.background, ["Antecedentes:"]),
   (.scenario, ["Escenario:", "Ejemplo:"]), (.outline, ["Esquema del escenario:"]),
   (.context, ["Dados", "Dadas", "Dado", "Dada"]), (.conjunction, ["Y ", "E ", "Pero "]),
   (.action, ["Cuando"]), (.outcome, ["Entonces"]), (.examples, ["Ejemplos:"])]

/-- The packaged dataset. -/
def packaged : Dataset :=
  ⟨[("en", english), ("ru", russian), ("de", german), ("fr", french), ("es", spanish)]⟩

/-- How messages refer to the place of the packaged dataset. -/
def packagedPlace : Text := "<packaged languages.yaml>"

end FeatureDocs.Dataset
