import AnnotatedApi.Proofs.TypeExpr
import AnnotatedApi.Resolution

/-!
Types in source files and types in directives.

Writing a type of a source file into a directive gives it the same schema, because its text is read
back (`TypeExpr.read_text`) and a name means the same in both vocabularies, unless only directives
know it (`named_directive`).  Main statement: `written_type_has_same_schema`.
-/

namespace AnnotatedApi

/-- The names that only directives know. -/
def directiveKeywords : List String :=
  ["integer", "number", "float", "double", "boolean", "object", "date", "date-time", "time.Time",
    "file"]

theorem keywordSchema?_eq_none {name : String} (h : name ∉ directiveKeywords) :
    keywordSchema? name = none := by
  unfold keywordSchema?
  split
  case h_11 => rfl
  all_goals exact absurd (by decide) h

namespace Resolver

/-- The name means the same in directives: it is overridden, or not a keyword of directives. -/
def Shares (r : Resolver) (name : String) : Prop :=
  name ∈ directiveKeywords → r.overrides.lookup? name ≠ none

/-- All names that the schema of the type depends on mean the same in directives. The keys of maps
do not count. -/
def SharesNames (r : Resolver) : TypeExpr → Prop
  | .ident name => r.Shares name
  | .qualified package name => r.Shares (package ++ "." ++ name)
  | .pointer target => r.SharesNames target
  | .slice element => r.SharesNames element
  | .map _ value => r.SharesNames value
  | _ => True

theorem named_directive {r : Resolver} {name : String} (h : r.Shares name) (rules : RecordRules) :
    r.named .directive name = r.named (.source rules) name := by
  unfold named
  cases hoverride : r.overrides.lookup? name with
  | some replacement => rfl
  | none =>
    have hkeyword : keywordSchema? name = none :=
      keywordSchema?_eq_none fun hmem => h hmem hoverride
    rw [hkeyword]

/-- The empty interface under its other name. -/
theorem named_any {r : Resolver} (hany : r.overrides.lookup? "any" = none) (v : Vocabulary) :
    r.named v "any" = {} := by
  unfold named
  rw [hany]
  cases v <;> rfl

/-! ### Any treatment of inline structs -/

/-- The schema of a type at the given depth, where `structs` gives those of inline structs. -/
def resolveWith (r : Resolver) (v : Vocabulary) (structs : List Field → Nat → Schema) :
    TypeExpr → Nat → Schema
  | e, depth =>
    if r.isExhausted depth then {}
    else match e with
      | .ident name => r.named v name
      | .qualified package name => r.named v (package ++ "." ++ name)
      | .pointer target => r.resolveWith v structs target depth
      | .slice element => .array (r.resolveWith v structs element (depth + 1))
      | .map _ value => .mapOf (r.resolveWith v structs value (depth + 1))
      | .struct fields => structs fields (depth + 1)
      | .interface => {}
      | .unsupported _ => {}

/-- What a vocabulary makes of inline structs. -/
def inlineStruct (r : Resolver) : Vocabulary → List Field → Nat → Schema
  | .directive, _, _ => {}
  | .source rules, fields, depth => r.structSchema rules fields none depth

theorem resolve_eq_resolveWith (r : Resolver) (v : Vocabulary) (e : TypeExpr) (depth : Nat) :
    r.resolve v e depth = r.resolveWith v (r.inlineStruct v) e depth := by
  induction e, depth using resolveWith.induct r with
  | case1 e depth hend =>
    unfold resolve resolveWith
    rw [if_pos hend, if_pos hend]
  | case2 depth hgo name => rw [resolve, resolveWith]
  | case3 depth hgo package name => rw [resolve, resolveWith]
  | case4 depth hgo target ih => rw [resolve, resolveWith, ih]
  | case5 depth hgo element ih => rw [resolve, resolveWith, ih]
  | case6 depth hgo key value ih => rw [resolve, resolveWith, ih]
  | case7 depth hgo fields => cases v <;> rw [resolve, resolveWith] <;> rfl
  | case8 depth hgo => rw [resolve, resolveWith]
  | case9 depth hgo text => rw [resolve, resolveWith]

/-- In directives the normal form of a type has the schema that the type has in source files. -/
theorem resolveWith_normal {r : Resolver} (hany : r.overrides.lookup? "any" = none) {e : TypeExpr}
    (he : e.Writable) (hnames : r.SharesNames e) (rules : RecordRules)
    (structs structs' : List Field → Nat → Schema) (depth : Nat) :
    r.resolveWith .directive structs e.normal depth =
      r.resolveWith (.source rules) structs' e depth := by
  induction he generalizing depth with
  | @ident name _ =>
    rw [TypeExpr.normal]
    by_cases hname : name = "any"
    · rw [if_pos hname, hname, resolveWith, resolveWith, named_any hany]
    · rw [if_neg hname, resolveWith, resolveWith, named_directive hnames rules]
  | @qualified package name _ _ _ =>
    show r.resolveWith .directive structs (.qualified package name) depth = _
    rw [resolveWith, resolveWith, named_directive hnames rules]
  | @pointer target _ ih =>
    rw [TypeExpr.normal, resolveWith, resolveWith, ih hnames]
  | @slice element _ ih =>
    rw [TypeExpr.normal, resolveWith, resolveWith, ih hnames]
  | @map key value _ _ _ ih =>
    rw [TypeExpr.normal, resolveWith, resolveWith, ih hnames]
  | interface => rfl

end Resolver

/-- **A type has the same schema in source files and, written out, in directives**, whatever is made
of inline structs in source files.  The names in it are proper names, none of which only directives
know, unless it is overridden.  In particular the two readings of `any` agree. -/
theorem written_type_has_same_schema (r : Resolver) (hany : r.overrides.lookup? "any" = none)
    (rules : RecordRules) :
    (∀ e : TypeExpr, e.Writable → r.SharesNames e →
      r.resolveText e.text = r.resolve (.source rules) e 0 ∧
      ∀ structs, r.resolveText e.text = r.resolveWith (.source rules) structs e 0) ∧
    r.resolveText "any" = r.resolve (.source rules) (.ident "any") 0 := by
  have hsame : ∀ e : TypeExpr, e.Writable → r.SharesNames e → ∀ structs,
      r.resolveText e.text = r.resolveWith (.source rules) structs e 0 := by
    intro e he hnames structs
    rw [Resolver.resolveText, TypeExpr.read_text he, Resolver.resolve_eq_resolveWith,
      Resolver.resolveWith_normal hany he hnames]
  have hrun : ∀ e : TypeExpr, e.Writable → r.SharesNames e →
      r.resolveText e.text = r.resolve (.source rules) e 0 := by
    intro e he hnames
    rw [Resolver.resolve_eq_resolveWith]
    exact hsame e he hnames _
  have hname : TypeExpr.IsName "any" :=
    TypeExpr.isName_of_all (by decide) (by decide)
  have hshared : r.Shares "any" := fun hmem => absurd hmem (by decide)
  exact ⟨fun e he hnames => ⟨hrun e he hnames, hsame e he hnames⟩,
    hrun (.ident "any") (.ident hname) hshared⟩

/-- A nested type with an overridden keyword as a value, another keyword as a key, and both
spellings of the empty interface. -/
theorem schema_of_written_map :
    let r : Resolver := { overrides := [("civil.date", "string")], maxDepth := 2 }
    let e : TypeExpr :=
      .map (.ident "integer") (.slice (.map (.ident "any") (.pointer (.ident "date"))))
    r.overrides.lookup? "any" = none ∧ e.Writable ∧ r.SharesNames e ∧
    e.text = "map[integer][]map[any]*date" ∧
    r.resolveText "map[integer][]map[any]*date" = r.resolve (.source {}) e 0 ∧
    ∀ structs, r.resolveText "map[integer][]map[any]*date" =
      r.resolveWith (.source {}) structs e 0 := by
  intro r e
  have hany : r.overrides.lookup? "any" = none := by decide
  have hname : ∀ name ∈ ["integer", "any", "date"], TypeExpr.IsName name := by
    simp only [List.mem_cons, List.not_mem_nil, or_false]
    rintro name (rfl | rfl | rfl) <;>
      exact TypeExpr.isName_of_all (by decide) (by decide)
  have hwritable : e.Writable :=
    .map (.ident (hname _ (by simp))) (.slice (.map
      (.ident (hname _ (by simp))) (.pointer (.ident (hname _ (by simp))))))
  have hnames : r.SharesNames e := fun _ => by
    show r.overrides.lookup? "date" ≠ none
    decide
  have htext : e.text = "map[integer][]map[any]*date" := by decide
  have hsame := (written_type_has_same_schema r hany {}).1 e hwritable hnames
  rw [htext] at hsame
  exact ⟨hany, hwritable, hnames, htext, hsame⟩

end AnnotatedApi
