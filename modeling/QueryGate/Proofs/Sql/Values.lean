import QueryGate.Sql.Select

/-!
# Statements without their values

`Select.blank` takes the values out of a selection, `Select.values` are the values taken out. Main
statements: `Sql.text_selectText_blank`, a statement has the text of its blank, and
`Sql.params_selectText`, its parameters are the values in their order.
-/

set_option autoImplicit false

namespace QueryGate

namespace Clause

def blank : Clause → Clause
  | .isNull c => .isNull c
  | .isTruth c b => .isTruth c b
  | .compare c comparison _ => .compare c comparison .null
  | .oneOf c vs => .oneOf c (vs.map fun _ => .null)
  | .like c _ => .like c ""

def values : Clause → List Value
  | .isNull _ | .isTruth _ _ => []
  | .compare _ _ v => [v]
  | .oneOf _ vs => vs
  | .like _ pattern => [.text pattern]

end Clause

namespace Select

def blank (s : Select) : Select := { s with clauses := s.clauses.map Clause.blank, limit := 0 }

def values (d : Dialect) (s : Select) : List Value :=
  s.clauses.flatMap Clause.values ++ Sql.rangeParams d s.limit

end Select

namespace Sql

variable (d : Dialect)

theorem text_clauseText_blank (c : Clause) :
    (clauseText d c.blank).text = (clauseText d c).text := by
  cases c with
  | oneOf c vs =>
    cases vs with
    | nil => rfl
    | cons v rest =>
      simp only [Clause.blank, List.map_cons, clauseText, List.map_map]
      rfl
  | like c pattern => cases d <;> rfl
  | _ => rfl

theorem params_clauseText (c : Clause) : (clauseText d c).params = c.values := by
  cases c with
  | oneOf c vs => cases vs <;> rfl
  | like c pattern => cases d <;> rfl
  | _ => rfl

theorem text_whereText_blank (clauses : List Clause) :
    (whereText d (clauses.map Clause.blank)).text = (whereText d clauses).text := by
  have htexts : ((clauses.map Clause.blank).map (clauseText d)).map (·.text) =
      (clauses.map (clauseText d)).map (·.text) := by
    simp [text_clauseText_blank]
  exact congrArg (String.intercalate " AND ") htexts

theorem params_whereText (clauses : List Clause) :
    (whereText d clauses).params = clauses.flatMap Clause.values := by
  rw [whereText, List.flatMap_map]
  simp only [params_clauseText]

theorem text_selectText_blank (s : Select) :
    (selectText d s.blank).text = (selectText d s).text := by
  have hwhere := text_whereText_blank d s.clauses
  have hempty : s.blank.clauses.isEmpty = s.clauses.isEmpty := by
    simp [Select.blank]
  simp only [selectText, hempty]
  rw [Select.blank, hwhere]

example : (selectText .sqlite ⟨[("id", ⟨⟨"Blog", ⟨"id", .integer⟩⟩, "id"⟩)], [], false,
      [.oneOf ⟨"Blog", ⟨"likeCount", .integer⟩⟩ [.int 0, .text "0) OR (1=1"],
        .compare ⟨"Blog", ⟨"title", .text⟩⟩ .equal (.text "' OR '1'='1")], 10⟩).text =
    "SELECT \"Blog\".id AS id FROM \"Blog\" " ++
      "WHERE \"Blog\".\"likeCount\" IN (?, ?) AND \"Blog\".title = ? " ++
      "ORDER BY \"Blog\".\"createdAt\" DESC, \"Blog\".id DESC LIMIT ? OFFSET ?" := by
  decide +kernel

theorem params_selectText (s : Select) : (selectText d s).params = s.values d := by
  show (whereText d s.clauses).params ++ rangeParams d s.limit = s.values d
  rw [params_whereText, Select.values]

end Sql

end QueryGate
