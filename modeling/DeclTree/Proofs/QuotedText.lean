import DeclTree.Proofs.PrintedTerms

/-!
# The values of string literals

A string literal is a text between two quotes, in which these quotes and backslashes stand after
a backslash only (`literalValue?`). Reading a literal takes the quotes off and leaves the text
between them as it is; printing puts a backslash before each quote and backslash of that text
and double quotes around it. So what is printed is a literal for the text between the quotes, not
for what this text stands for: the value is kept by a literal without escapes and by no other
(`printed_literal_denotes_body`).
-/

namespace DeclTree.Lower

open SourceText

/-- Characters that may stand after a backslash. -/
def isEscapable (c : Char) : Bool := c == '\\' || c == '"' || c == '\''

/-- What a text between quotes of a kind stands for. -/
def unescaped? (q : Char) : List Char → Option (List Char)
  | [] => some []
  | c :: rest =>
    if c = '\\' then
      match rest with
      | [] => none
      | e :: rest => if isEscapable e then (unescaped? q rest).map (e :: ·) else none
    else if c = q then none
    else (unescaped? q rest).map (c :: ·)

theorem unescaped?_escape (q e : Char) (rest : List Char) :
    unescaped? q ('\\' :: e :: rest) =
      if isEscapable e then (unescaped? q rest).map (e :: ·) else none :=
  if_pos rfl

theorem unescaped?_plain {q c : Char} (hc : c ≠ '\\') (hq : c ≠ q) (rest : List Char) :
    unescaped? q (c :: rest) = (unescaped? q rest).map (c :: ·) := by
  cases rest <;> exact (if_neg hc).trans (if_neg hq)

/-- The value of a literal in quotes of a kind. -/
def literalValue? (q : Char) (text : String) : Option String :=
  match text.toList with
  | [] => none
  | c :: rest =>
    if c = q ∧ rest.getLast? = some q then (unescaped? q rest.dropLast).map String.ofList else none

example : literalValue? '\'' "'it\\'s'" = some "it's" ∧ literalValue? '"' "\"a\"b\"" = none := by
  decide +kernel

/-- A literal is its quotes and the text between them. -/
theorem literalValue?_eq_some_iff {q : Char} {text value : String} :
    literalValue? q text = some value ↔
      ∃ body, text.toList = q :: (body ++ [q]) ∧ unescaped? q body = some value.toList := by
  rw [literalValue?]
  constructor
  · intro h
    split at h
    · cases h
    · rename_i c rest htext
      by_cases hquotes : c = q ∧ rest.getLast? = some q
      · rw [if_pos hquotes] at h
        obtain ⟨inner, hinner, rfl⟩ := Option.map_eq_some_iff.mp h
        obtain ⟨rfl, hlast⟩ := hquotes
        obtain ⟨body, rfl⟩ := List.getLast?_eq_some_iff.mp hlast
        rw [List.dropLast_concat] at hinner
        exact ⟨body, htext, by rw [hinner, String.toList_ofList]⟩
      · rw [if_neg hquotes] at h
        cases h
  · rintro ⟨body, htext, hbody⟩
    simp [htext, hbody]

/-- Without a backslash a text stands for itself, with one it stands for a shorter text. -/
theorem unescaped?_cases {q : Char} {body value : List Char} (h : unescaped? q body = some value) :
    ('\\' ∉ body ∧ value = body) ∨ ('\\' ∈ body ∧ value.length < body.length) := by
  fun_induction unescaped? q body generalizing value with
  | case1 =>
    cases h
    exact Or.inl ⟨List.not_mem_nil, rfl⟩
  | case2 => cases h
  | case3 e rest he ih =>
    obtain ⟨inner, hinner, rfl⟩ := Option.map_eq_some_iff.mp h
    refine Or.inr ⟨List.mem_cons_self, ?_⟩
    rcases ih hinner with ⟨-, rfl⟩ | ⟨-, hshorter⟩
    · simp
    · simp only [List.length_cons]
      omega
  | case4 => cases h
  | case5 => cases h
  | case6 c rest hc hq ih =>
    obtain ⟨inner, hinner, rfl⟩ := Option.map_eq_some_iff.mp h
    rcases ih hinner with ⟨hnone, rfl⟩ | ⟨hsome, hshorter⟩
    · exact Or.inl ⟨by simp [hnone, Ne.symm hc], rfl⟩
    · refine Or.inr ⟨List.mem_cons_of_mem c hsome, ?_⟩
      simpa using hshorter

/-- A text with a backslash before each double quote and backslash stands for that text. -/
theorem unescaped?_quoted (body : List Char) :
    unescaped? '"' (body.flatMap fun c => if c == '"' || c == '\\' then ['\\', c] else [c]) =
      some body := by
  induction body with
  | nil => rfl
  | cons c rest ih =>
    rw [List.flatMap_cons]
    by_cases hc : c = '"' ∨ c = '\\'
    · have hescapable : isEscapable c = true := by rcases hc with rfl | rfl <;> rfl
      rw [if_pos (by simpa using hc), List.cons_append, List.singleton_append,
        unescaped?_escape, if_pos hescapable, ih, Option.map_some]
    · obtain ⟨hquote, hbackslash⟩ := not_or.mp hc
      rw [if_neg (by simpa using hc), List.singleton_append,
        unescaped?_plain hbackslash hquote, ih, Option.map_some]

/-- What is printed for a text is a literal in double quotes with that text as its value. -/
theorem literalValue?_quote (s : String) : literalValue? '"' (quote s) = some s := by
  rw [literalValue?_eq_some_iff]
  refine ⟨_, ?_, unescaped?_quoted s.toList⟩
  simp [quote]

theorem unquote_literal {q : Char} (hq : q = '"' ∨ q = '\'') {text : String} {body : List Char}
    (htext : text.toList = q :: (body ++ [q])) : unquote text = String.ofList body := by
  have hquote : (q == '"' || q == '\'' || q == Char.ofNat 0x60) = true := by
    rcases hq with rfl | rfl <;> rfl
  rw [unquote, htext]
  simp [hquote]

variable {kinds : KindTable} {t : Cst}

theorem shows_string (hform : Ordered.get? expressionForms t.kind = some .string) :
    Shows kinds (expressionOf (read t)) "StringLiteral" (quote (unquote t.text)) := by
  have hread : expressionOf (read t) =
      ((Draft.new "StringLiteral" t.info).putText (unquote t.text)).build := by
    rw [expressionOf, expression_read]
    simp only [readExpression, head_kind_read, hform, head_info_read]
    rfl
  rw [hread]
  exact ⟨rfl, printed_quoted rfl rfl rfl⟩

/-- A string in quotes of either kind is printed as a literal in double quotes. Its value is the
text between the quotes of the source, escapes and all; so it is the value of the source exactly
when there are none. -/
theorem printed_literal_denotes_body (kinds : KindTable) {t : Cst} (hkind : t.kind = "string")
    {q : Char} (hq : q = '"' ∨ q = '\'') {body value : List Char}
    (htext : t.text = String.ofList (q :: (body ++ [q])))
    (hvalue : unescaped? q body = some value) :
    let shown := (Normal.normalize kinds (read t).attr.expression).sourceText
    literalValue? q t.text = some (String.ofList value) ∧
      literalValue? '"' shown = some (String.ofList body) ∧
      (literalValue? '"' shown = literalValue? q t.text ↔ '\\' ∉ body) := by
  intro shown
  have hchars : t.text.toList = q :: (body ++ [q]) := by rw [htext, String.toList_ofList]
  have hform : Ordered.get? expressionForms t.kind = some .string := by
    rw [hkind]
    rfl
  have hshown : shown = quote (String.ofList body) := by
    rw [← unquote_literal hq hchars]
    exact (shows_string hform).text_eq
  have hsource : literalValue? q t.text = some (String.ofList value) := by
    rw [literalValue?_eq_some_iff]
    exact ⟨body, hchars, by rw [hvalue, String.toList_ofList]⟩
  have hprinted : literalValue? '"' shown = some (String.ofList body) := by
    rw [hshown, literalValue?_quote]
  refine ⟨hsource, hprinted, ?_⟩
  rw [hprinted, hsource, Option.some.injEq, String.ofList_inj]
  rcases unescaped?_cases hvalue with ⟨hnone, hsame⟩ | ⟨hsome, hshorter⟩
  · exact iff_of_true hsame.symm hnone
  · refine iff_of_false ?_ (not_not_intro hsome)
    rintro rfl
    exact Nat.lt_irrefl _ hshorter

/-- A literal in single quotes around a double quote keeps its value, and one around a single
quote after a backslash does not. -/
theorem printed_literal_denotes_body_single :
    let literal (text : String) : Cst := .node () ⟨"string", true, 0, text.length, text⟩ [] []
    let shown (kinds : KindTable) (text : String) : String :=
      (Normal.normalize kinds (read (literal text)).attr.expression).sourceText
    ∀ kinds : KindTable,
      literalValue? '"' (shown kinds "'a\"b'") = literalValue? '\'' "'a\"b'" ∧
        literalValue? '\'' "'it\\'s'" = some "it's" ∧
        literalValue? '"' (shown kinds "'it\\'s'") ≠ literalValue? '\'' "'it\\'s'" := by
  intro literal shown kinds
  have hplain := @printed_literal_denotes_body kinds (literal "'a\"b'") rfl '\'' (Or.inr rfl)
    "a\"b".toList "a\"b".toList (by decide) (by decide +kernel)
  have hescaped := @printed_literal_denotes_body kinds (literal "'it\\'s'") rfl '\'' (Or.inr rfl)
    "it\\'s".toList "it's".toList (by decide) (by decide +kernel)
  refine ⟨hplain.2.2.mpr (by decide), hescaped.1, ?_⟩
  intro hsame
  exact hescaped.2.2.mp hsame (by decide)

/-- The literal for `a"b` is printed as a literal for the text between its quotes. -/
theorem escaped_quote_changes_value :
    let t : Cst := .node () ⟨"string", true, 0, 6, "\"a\\\"b\""⟩ [] []
    literalValue? '"' t.text = some "a\"b" ∧
      ∀ kinds : KindTable,
        let shown := (Normal.normalize kinds (read t).attr.expression).sourceText
        shown = "\"a\\\\\\\"b\"" ∧ literalValue? '"' shown = some "a\\\"b" ∧
          literalValue? '"' shown ≠ literalValue? '"' t.text := by
  intro t
  refine ⟨by decide +kernel, ?_⟩
  intro kinds shown
  have hshown : shown = quote (unquote "\"a\\\"b\"") := (shows_string rfl).text_eq
  rw [hshown]
  decide +kernel

end DeclTree.Lower
