import MqttRelay.Text.Split

/-!
# Topic filters

A topic is a list of levels between slashes. A filter may hold wildcards: `+` stands for one
level, `#` for this level and all that follow, and for none at all.

Results:
* `levelsMatch_hash`: a filter that has come to `#` takes every rest.
* `levelsMatch_nil_iff`: the empty rest of a filter takes only the empty rest of a topic.
-/

namespace MqttRelay.Topic

/-- The levels of a topic or filter. -/
def levels (s : String) : List (List Char) := Text.splitAt '/' s.toList

/-- Whether the levels of a filter match the levels of a topic, level by level. -/
def levelsMatch : List (List Char) → List (List Char) → Bool
  | [], [] => true
  | [], _ :: _ => false
  | f :: _, [] => f == ['#']
  | f :: fs, t :: ts => f == ['#'] || ((f == ['+'] || f == t) && levelsMatch fs ts)

/-- Whether a filter matches a topic. A wildcard at its very beginning never matches a topic
that begins with a dollar sign. -/
def filterMatches (filter topic : String) : Bool :=
  let hidden := topic.toList.head? == some '$' &&
    (filter.toList.head? == some '+' || filter.toList.head? == some '#')
  !hidden && levelsMatch (levels filter) (levels topic)

theorem levelsMatch_hash (fs ts : List (List Char)) : levelsMatch (['#'] :: fs) ts = true := by
  cases ts <;> simp [levelsMatch]

theorem levelsMatch_nil_iff (ts : List (List Char)) : levelsMatch [] ts = true ↔ ts = [] := by
  cases ts <;> simp [levelsMatch]

end MqttRelay.Topic
