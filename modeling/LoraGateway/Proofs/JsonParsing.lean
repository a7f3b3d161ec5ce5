import LoraGateway.Json.Syntax

/-!
# Reading a value from its tokens

The parser reads every syntax from its tokens, whatever containers are open and whatever comes
behind (`Parser.run_tokens`), and so a whole text, too (`Syntax.ofTokens?_tokens`).
-/

namespace LoraGateway.Json

namespace Syntax

mutual

/-- The tokens of a syntax. -/
def tokens : Syntax → List Token
  | .null => [.null]
  | .bool b => [.bool b]
  | .number n => [.number n]
  | .string s => [.string s]
  | .array items => .openArray :: (itemTokens [] items ++ [.closeArray])
  | .object members => .openObject :: (memberTokens [] members ++ [.closeObject])
termination_by structural v => v

/-- The tokens of the items of an array, the first after the given separator and the others after a
    comma. -/
def itemTokens (separator : List Token) : List Syntax → List Token
  | [] => []
  | v :: rest => separator ++ v.tokens ++ itemTokens [.comma] rest
termination_by structural items => items

/-- The tokens of the members of an object, the first after the given separator and the others
    after a comma. -/
def memberTokens (separator : List Token) : List (Option String × Syntax) → List Token
  | [] => []
  | m :: rest => separator ++ pairTokens m ++ memberTokens [.comma] rest
termination_by structural members => members

/-- The tokens of a member of an object. -/
def pairTokens : Option String × Syntax → List Token
  | (name, v) => .string name :: .colon :: v.tokens
termination_by structural m => m

end

end Syntax

namespace Parser

/-- The first item of an array is read like any other value: no value starts with a bracket that
    closes. -/
theorem run_firstItem (context : List Container) (v : Syntax) (rest : List Token) :
    run (.firstItem context) (v.tokens ++ rest) =
      run (.value (.array [] :: context)) (v.tokens ++ rest) := by
  cases v <;> rfl

mutual

/-- A value is read from its tokens, whatever containers are open and whatever comes behind. -/
theorem run_tokens : ∀ (v : Syntax) (context : List Container) (rest : List Token),
    run (.value context) (v.tokens ++ rest) = run (.done v context) rest
  | .null, _, _ => rfl
  | .bool _, _, _ => rfl
  | .number _, _, _ => rfl
  | .string _, _, _ => rfl
  | .array [], _, _ => rfl
  | .array (v :: items), context, rest => by
    have hopen : (Syntax.array (v :: items)).tokens ++ rest =
        .openArray :: (v.tokens ++ (Syntax.itemTokens [.comma] items ++ .closeArray :: rest)) := by
      simp only [Syntax.tokens, Syntax.itemTokens, List.nil_append, List.cons_append,
        List.append_assoc]
    rw [hopen, run, step, open?, Option.bind_some, run_firstItem, run_tokens v,
      run_itemTokens items [] v]
    rfl
  | .object [], _, _ => rfl
  | .object ((name, v) :: members), context, rest => by
    have hopen : (Syntax.object ((name, v) :: members)).tokens ++ rest =
        .openObject :: .string name :: .colon ::
          (v.tokens ++ (Syntax.memberTokens [.comma] members ++ .closeObject :: rest)) := by
      simp only [Syntax.tokens, Syntax.memberTokens, Syntax.pairTokens, List.nil_append,
        List.cons_append, List.append_assoc]
    rw [hopen, run, step, open?, Option.bind_some, run, step, Option.bind_some, run, step,
      Option.bind_some, run_tokens v, run_memberTokens members [] name v]
    rfl
termination_by structural v => v

/-- The rest of an array, after the items `v :: read`. -/
theorem run_itemTokens : ∀ (items read : List Syntax) (v : Syntax) (context : List Container)
    (rest : List Token),
    run (.done v (.array read :: context))
        (Syntax.itemTokens [.comma] items ++ .closeArray :: rest) =
      run (.done (.array (read.reverse ++ v :: items)) context) rest
  | [], read, v, context, rest => by
    rw [Syntax.itemTokens, List.nil_append, run, step, Option.bind_some, List.reverse_cons]
  | w :: items, read, v, context, rest => by
    rw [Syntax.itemTokens, List.singleton_append, List.cons_append, List.cons_append,
      List.append_assoc, run, step, Option.bind_some, run_tokens w, run_itemTokens items,
      List.reverse_cons, List.append_assoc, List.singleton_append]
termination_by structural items => items

/-- The rest of an object, after the members `(name, v) :: read`. -/
theorem run_memberTokens : ∀ (members read : List (Option String × Syntax)) (name : Option String)
    (v : Syntax) (context : List Container) (rest : List Token),
    run (.done v (.object read name :: context))
        (Syntax.memberTokens [.comma] members ++ .closeObject :: rest) =
      run (.done (.object (read.reverse ++ (name, v) :: members)) context) rest
  | [], read, name, v, context, rest => by
    rw [Syntax.memberTokens, List.nil_append, run, step, Option.bind_some, List.reverse_cons]
  | (key, w) :: members, read, name, v, context, rest => by
    -- The name and the colon before the value are read on the way to it.
    have hcomma : Syntax.memberTokens [.comma] ((key, w) :: members) ++ .closeObject :: rest =
        .comma :: .string key :: .colon ::
          (w.tokens ++ (Syntax.memberTokens [.comma] members ++ .closeObject :: rest)) := by
      simp only [Syntax.memberTokens, Syntax.pairTokens, List.cons_append, List.nil_append,
        List.append_assoc]
    rw [hcomma, run, step, Option.bind_some, run, step, Option.bind_some, run, step,
      Option.bind_some, run_tokens w, run_memberTokens members, List.reverse_cons,
      List.append_assoc, List.singleton_append]
termination_by structural members => members

end

end Parser

theorem Syntax.ofTokens?_tokens (v : Syntax) : Syntax.ofTokens? v.tokens = some v := by
  rw [Syntax.ofTokens?, ← List.append_nil v.tokens, Parser.run_tokens]
  rfl

end LoraGateway.Json
