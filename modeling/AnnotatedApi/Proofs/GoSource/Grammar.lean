import AnnotatedApi.GoSource.Grammar.File
import AnnotatedApi.Proofs.GoSource.Rules

/-!
The grammar keeps the order of the text.

Each rule of the grammar takes something when the rules for the phrases inside do; the rules that
others share come first.  So every phrase takes something, however deep it nests
(`takes_readPhrase`), and what a file consists of keeps the order (`keeps_fileItems`).
-/

namespace AnnotatedApi.GoSource

open Rule

namespace Grammar

section

variable (inner : Phrases) [∀ phrase, Takes (inner phrase)]

/-! ### Types -/

instance takes_typeArguments : Takes (typeArguments inner) := by
  unfold typeArguments
  infer_instance

instance takes_qualifiedType (lines : Bool) : Takes (qualifiedType lines) := by
  unfold qualifiedType
  infer_instance

instance takes_genericType (lines : Bool) : Takes (genericType inner lines) := by
  unfold genericType
  infer_instance

instance takes_namedType (lines : Bool) : Takes (namedType inner lines) := by
  unfold namedType
  infer_instance

instance takes_parameters : Takes (parameters inner) := by
  unfold parameters parameter
  infer_instance

instance takes_result (lines : Bool) : Takes (result inner lines) := by
  unfold result
  infer_instance

instance takes_constraint (lines : Bool) : Takes (constraint inner lines) := by
  unfold constraint approximation
  infer_instance

instance takes_typeParameters : Takes (typeParameters inner) := by
  unfold typeParameters
  infer_instance

instance keeps_fieldEnd : Keeps fieldEnd :=
  keeps_of_imp fun {ts result} h => by
    rw [fieldEnd.eq_def] at h
    split at h
    · exact nomatch h
    · split at h
      · exact ⟨Rule.empty, inferInstance, h⟩
      · exact ⟨_, inferInstance, h⟩

instance takes_fieldList : Takes (fieldList inner) := by
  unfold fieldList embeddedField namedField tag
  infer_instance

instance takes_compositeType (lines : Bool) : Takes (compositeType inner lines) := by
  unfold compositeType arrayLength
  infer_instance

instance takes_typeLiteral (lines : Bool) : Takes (typeLiteral inner lines) := by
  unfold typeLiteral channelType functionType interfaceType interfaceElement
  infer_instance

instance takes_simpleType (lines : Bool) : Takes (simpleType inner lines) := by
  unfold simpleType
  infer_instance

instance takes_parenthesizedType : Takes (parenthesizedType inner) := by
  unfold parenthesizedType
  infer_instance

instance takes_type (lines : Bool) : Takes (type inner lines) := by
  unfold type
  infer_instance

/-! ### Expressions -/

instance takes_enclosed : Takes (enclosed inner) := by
  unfold enclosed
  infer_instance

instance takes_expressions (place : Place) : Takes (expressions inner place) := by
  unfold expressions
  infer_instance

instance takes_literalValue : Takes (literalValue inner) := by
  unfold literalValue
  infer_instance

instance takes_compositeLiteral (place : Place) : Takes (compositeLiteral inner place) := by
  unfold compositeLiteral countedArrayType
  dsimp only
  split <;> infer_instance

instance takes_arguments : Takes (arguments inner) := by
  unfold arguments
  infer_instance

instance takes_operandStart (place : Place) : Takes (operandStart inner place) := by
  unfold operandStart functionLiteral allocation conversion converted
  infer_instance

instance takes_operandContinuation : Takes (operandContinuation inner) := by
  unfold operandContinuation bounds
  infer_instance

instance takes_operand (place : Place) : Takes (operand inner place) := by
  unfold operand
  infer_instance

instance takes_expression (place : Place) : Takes (expression inner place) := by
  unfold expression
  infer_instance

/-! ### Statements -/

instance takes_simpleStatement (place : Place) : Takes (simpleStatement inner place) := by
  unfold simpleStatement
  infer_instance

instance takes_specifications {spec : Rule} [Takes spec] : Takes (specifications spec) := by
  unfold specifications
  infer_instance

instance takes_heavier {first second : Rule} [hfirst : Takes first] [hsecond : Takes second] :
    Takes (heavier first second) :=
  takes_of_imp fun {ts result} h => by
    rw [heavier] at h
    split at h
    · next a b ha hb =>
      split at h
      · exact ⟨second, hsecond, hb.trans h⟩
      · exact ⟨first, hfirst, ha.trans h⟩
    · next a ha _ => exact ⟨first, hfirst, ha.trans h⟩
    · exact ⟨second, hsecond, h⟩

instance takes_declaration : Takes (declaration inner) := by
  unfold declaration constantSpec variableSpec typeSpec
  infer_instance

instance keeps_statements : Keeps (statements inner) := by
  unfold statements atStatement
  infer_instance

instance takes_block : Takes (block inner) := by
  unfold block
  infer_instance

instance takes_cases {item : Rule} [Takes item] : Takes (cases inner item) := by
  unfold cases
  infer_instance

instance takes_loop : Takes (loop inner) := by
  unfold loop loopHead range steps
  infer_instance

instance takes_switch : Takes (switch inner) := by
  unfold switch
  infer_instance

instance takes_command : Takes (command inner) := by
  unfold command
  infer_instance

instance takes_statement : Takes (statement inner) := by
  unfold statement conditional select labeled
  infer_instance

/-! ### Files -/

instance takes_rule (phrase : Phrase) : Takes (rule inner phrase) := by
  cases phrase <;> simp only [rule] <;> infer_instance

instance keeps_fileItems : Keeps (fileItems inner) := by
  unfold fileItems packageClause importDecl importSpec method function signature
  infer_instance

end

end Grammar

instance takes_readPhrase (fuel : Nat) (phrase : Phrase) : Takes (readPhrase fuel phrase) := by
  induction fuel generalizing phrase with
  | zero => exact takes_of_imp fun h => nomatch h
  | succ fuel ih =>
    exact takes_of_imp fun h => ⟨Grammar.rule (readPhrase fuel) phrase, inferInstance, h⟩

end AnnotatedApi.GoSource
