import DocLint.Proofs.Lexeme.CompleteFunction
import DocLint.Proofs.Rule.Opening

/-!
# The verdict on a complete function is local

The checks of a complete function give the same violations whatever stands
before and after it. The function alone is compared with the function in a
file, and two files are compared by way of the function alone.

Results:
* `CompleteFunction.sameFunction`: the function alone and the function in a file.
* `CompleteFunction.check_eq`: the verdict in a file, by the verdict alone.
* `check_surrounded`: the verdict in a file that is put between others.
-/
namespace DocLint

open TokenSequence

namespace CompleteFunction

variable (f : CompleteFunction) {before after xs : List Lexeme}

/-! ## Places -/

theorem place_eq (hxs : xs = before ++ (f.lexemes ++ after)) {i : Nat}
    (hi : i ≤ f.lexemes.length) :
    place xs (before.length + i) = before.countP Lexeme.isKept + place f.lexemes i := by
  rw [hxs, place_append_right, place_append_left _ _ hi]

theorem keyword_mem : 0 ∈ declarations f.lexemes :=
  mem_declarations.2 ⟨f.keyword, rfl, f.declares⟩

theorem keyword_mem_of_eq (hxs : xs = before ++ (f.lexemes ++ after)) :
    before.length ∈ declarations xs := by
  refine mem_declarations.2 ⟨f.keyword, ?_, f.declares⟩
  have hlen := f.length_lexemes
  exact f.getElem?_lexemes hxs (show 0 < f.lexemes.length by omega)

theorem sound : Layout.Sound f.lexemes 0 (Layout.ofDeclaration f.lexemes 0) :=
  Layout.sound_ofDeclaration (x := f.keyword) rfl

/-! ## The tokens of the function -/

/-- All tokens of the function alone stand in the file. -/
theorem sameStretch (hxs : xs = before ++ (f.lexemes ++ after)) {hi : Nat}
    (hhi : hi < (ofLexemes f.lexemes).length) :
    SameStretch (ofLexemes f.lexemes) (ofLexemes xs) (before.countP Lexeme.isKept) 1 hi := by
  refine .of_lexemes (Nat.le_refl 1) hhi fun i x hx _ _ _ => ?_
  have hi := (List.getElem?_eq_some_iff.1 hx).1
  exact ⟨before.length + i, (f.getElem?_lexemes hxs hi).trans hx, f.place_eq hxs (Nat.le_of_lt hi)⟩

theorem scopeOpener_eq_of_eq (hxs : xs = before ++ (f.lexemes ++ after)) :
    (Layout.ofDeclaration xs before.length).scopeOpener = some (before.length + f.opener) := by
  rw [f.ofDeclaration_eq hxs, Layout.shift, f.scopeOpener_eq, Option.map_some]

/-- The last token of the scope, in the function alone. -/
theorem closer_lt_length :
    place f.lexemes (Layout.scopeEnd f.lexemes f.opener) < (ofLexemes f.lexemes).length := by
  obtain ⟨colon, hcolon, hk⟩ := f.sound.scopeOpener_kept f.scopeOpener_eq
  obtain ⟨-, x, hx, hkx⟩ := Layout.scopeEnd_mem hcolon hk
  exact place_lt_length hx hkx

/-- What the body starts with is marked in the file just if it is marked in the
function alone: of all declarations, only this one can mark it. -/
theorem isDocComment_eq (hxs : xs = before ++ (f.lexemes ++ after)) {d : Nat}
    (hd : firstIn startsStatement (ofLexemes f.lexemes).tokens (place f.lexemes f.opener + 1)
      (place f.lexemes (Layout.scopeEnd f.lexemes f.opener) + 1) = some d) :
    (ofLexemes xs).isDocComment (before.countP Lexeme.isKept + d) =
      (ofLexemes f.lexemes).isDocComment d := by
  have hlen := f.length_lexemes
  have hbound := f.closer_bounds
  have hopener := f.opener_lt_lastAt
  have halone := filter_firstIn_place f.keyword_mem f.scopeOpener_eq
  have hfile := filter_firstIn_place (f.keyword_mem_of_eq hxs) (f.scopeOpener_eq_of_eq hxs)
  have hsearch := (f.sameStretch hxs f.closer_lt_length).firstIn_eq
    (fun t u ha => ha.startsStatement) (show 1 ≤ place f.lexemes f.opener + 1 by omega)
    (Nat.le_refl _)
  rw [f.scopeEnd_eq hxs, f.place_eq hxs (by omega), f.place_eq hxs (by omega), Nat.add_assoc,
    Nat.add_assoc, hsearch, hd, f.docString_eq hxs, Option.map_some, Option.filter_some] at hfile
  rw [hd, Option.filter_some] at halone
  cases hdoc : (Layout.ofDeclaration f.lexemes 0).docString? f.lexemes with
  | none =>
    rw [hdoc] at halone hfile
    simp only [Option.map_none, ite_eq_right_iff, reduceCtorEq, imp_false, Bool.not_eq_true]
      at halone hfile
    rw [halone, hfile]
  | some i =>
    rw [hdoc] at halone hfile
    simp only [Option.map_some, Option.ite_none_right_eq_some] at halone hfile
    rw [halone.1, hfile.1]

/-- The scope ends with the end of a statement. -/
theorem ended : ∃ e, place f.lexemes f.opener < e ∧
    e ≤ place f.lexemes (Layout.scopeEnd f.lexemes f.opener) ∧
    (ofLexemes f.lexemes).tokens[e]?.any (·.kind == .terminator) = true ∧
    ∀ j, e < j → j ≤ place f.lexemes (Layout.scopeEnd f.lexemes f.opener) →
      (ofLexemes f.lexemes).tokens[j]?.any isTrailing = true := by
  have hbound := f.closer_bounds
  have hlast := f.getElem?_lastAt
  have hklast := Lexeme.isKept_of_newline f.last_type
  obtain ⟨colon, hcolon, hk⟩ := f.sound.scopeOpener_kept f.scopeOpener_eq
  refine ⟨place f.lexemes f.lastAt, place_lt_place hcolon hk f.opener_lt_lastAt,
    place_le_place _ hbound.1, ?_, fun j h1 h2 => ?_⟩
  · rw [getElem?_ofLexemes_place hlast hklast, Option.any_some, beq_iff_eq]
    rcases (renders_toToken hlast).kind with hkind | ⟨hs, -⟩
    · rw [hkind, Lexeme.kind, f.last_type]
    · rw [f.last_type] at hs
      cases hs
  · have hj : j < (ofLexemes f.lexemes).tokens.length := Nat.lt_of_le_of_lt h2 f.closer_lt_length
    have ht := List.getElem?_eq_getElem hj
    rcases exists_lexeme_of_token ht with ⟨rfl, -⟩ | ⟨i, x, hx, hkx, rfl, hrender⟩
    · omega
    · have hi := (place_lt_place_iff hlast hklast hx hkx).1 h1
      have hic : i < f.dedentAt := by
        obtain ⟨-, z, hz, hkz⟩ := Layout.scopeEnd_mem hcolon hk
        have := place_lt_place_iff hz hkz hx hkx
        omega
      have hfiller : x.isFiller = true := by
        rcases f.getElem?_tail hi hic hx with hfill | hdrop
        · exact hfill
        · rw [hkx] at hdrop
          cases hdrop
      rw [ht, hrender, Option.any_some, isTrailing]
      rcases Lexeme.type_of_isFiller hfiller with htype | htype <;>
        rcases (renders_toToken hx).kind with hkind | ⟨hs, -⟩
      · simp [hkind, Lexeme.kind, htype]
      · simp [htype] at hs
      · simp [hkind, Lexeme.kind, htype]
      · simp [htype] at hs

/-- The function alone and the function in a file. -/
theorem sameFunction (hxs : xs = before ++ (f.lexemes ++ after)) : ∃ p,
    SameFunction (ofLexemes f.lexemes) (ofLexemes xs) (before.countP Lexeme.isKept) 1 p := by
  have hlen := f.length_lexemes
  have hbound := f.closer_bounds
  have hopener := f.opener_lt_lastAt
  have hlastAt := f.lastAt_lt_dedentAt
  obtain ⟨a, b, ha, hb⟩ := f.exists_parens
  have hc := Layout.scopeCloser_ofDeclaration f.lexemes 0
  rw [f.scopeOpener_eq, Option.map_some] at hc
  have hkeyword : f.keyword.isKept = true := Lexeme.isKept_of_isDeclaration f.declares
  obtain ⟨h0a, -, -⟩ := f.sound.parenOpener a ha
  obtain ⟨a', -, ha', hab, -, -, -, -, hbo⟩ := f.sound.parenCloser b hb
  obtain rfl : a = a' := by rwa [ha, Option.some.injEq] at ha'
  have hbo := hbo f.opener f.scopeOpener_eq
  refine ⟨⟨place f.lexemes f.opener, place f.lexemes (Layout.scopeEnd f.lexemes f.opener),
    place f.lexemes a, place f.lexemes b⟩, ?_, ?_, ?_, ⟨?_, ?_, ?_, ?_⟩, f.ended,
    fun d hd => f.isDocComment_eq hxs hd, ?_, ?_, Nat.one_pos⟩
  · exact f.sameStretch hxs f.closer_lt_length
  · obtain ⟨t, ht, he⟩ := exists_token_of_declaration f.keyword_mem
    refine ⟨t, ht, ?_⟩
    rw [he, Layout.toExtent, f.scopeOpener_eq, hc, ha, hb]
    rfl
  · obtain ⟨t, ht, he⟩ := exists_token_of_declaration (f.keyword_mem_of_eq hxs)
    have hplace := f.place_eq hxs (Nat.zero_le _)
    rw [Nat.add_zero] at hplace
    rw [hplace] at ht
    refine ⟨t, ht, ?_⟩
    rw [he, f.ofDeclaration_eq hxs, Layout.toExtent, Layout.shift, f.scopeOpener_eq, hc, ha, hb]
    simp only [Option.map_some, f.place_eq hxs (show f.opener ≤ f.lexemes.length by omega),
      f.place_eq hxs (show Layout.scopeEnd f.lexemes f.opener ≤ f.lexemes.length by omega),
      f.place_eq hxs (show a ≤ f.lexemes.length by omega),
      f.place_eq hxs (show b ≤ f.lexemes.length by omega)]
    rfl
  · exact place_lt_place (x := f.keyword) rfl hkeyword h0a
  · obtain ⟨x, hx, hk⟩ := f.sound.parenOpener_kept ha
    exact place_lt_place hx hk hab
  · obtain ⟨x, hx, hk⟩ := f.sound.parenCloser_kept hb
    exact place_lt_place hx hk hbo
  · obtain ⟨x, hx, hk⟩ := f.sound.scopeOpener_kept f.scopeOpener_eq
    exact place_lt_place hx hk (by omega)
  · exact getElem?_ofLexemes_zero (any_isKept (i := 0) (x := f.keyword) rfl hkeyword)
  · have hx := f.getElem?_lexemes hxs (show 0 < f.lexemes.length by omega)
    exact getElem?_ofLexemes_zero (any_isKept (hx.trans rfl) hkeyword)

/-- The verdict in a file, by the verdict on the function alone. -/
theorem check_eq (rule : FunctionRule) (hxs : xs = before ++ (f.lexemes ++ after)) :
    rule.check (ofLexemes xs) (place xs before.length) =
      shiftVerdict (before.countP Lexeme.isKept) (rule.check (ofLexemes f.lexemes) 1) := by
  obtain ⟨p, h⟩ := f.sameFunction hxs
  have hplace := f.place_eq hxs (Nat.zero_le _)
  rw [Nat.add_zero] at hplace
  rw [hplace]
  exact rule.check_copy h

end CompleteFunction

theorem shiftVerdict_add (m n : Nat) (verdict : Except Fault (List Violation)) :
    shiftVerdict (m + n) verdict = shiftVerdict m (shiftVerdict n verdict) := by
  cases verdict with
  | error fault => rfl
  | ok violations =>
    simp only [shiftVerdict_ok, List.map_map, Except.ok.injEq]
    refine List.map_congr_left fun v _ => ?_
    simp [Violation.shift, Int.add_assoc]

/-- The verdict on a complete function does not depend on the code around it: in
a file that is put between others, the function gives the same violations in the
same order, or the same fault, with every token index moved by the number of
kept lexemes that come before the file. -/
theorem check_surrounded (rule : FunctionRule) (before xs after : List Lexeme) (k : Nat)
    (h : CompleteAt xs k) :
    rule.check (ofLexemes (before ++ (xs ++ after)))
        (place (before ++ (xs ++ after)) (before.length + k)) =
      (rule.check (ofLexemes xs) (place xs k)).map
        (List.map (Violation.shift (before.countP Lexeme.isKept))) := by
  obtain ⟨f, front, back, rfl, hxs⟩ := h
  have hinner : xs = front ++ (f.lexemes ++ back) := by
    rw [hxs, CompleteFunction.lexemes, CompleteFunction.block]
    simp
  have houter : before ++ (xs ++ after) = (before ++ front) ++ (f.lexemes ++ (back ++ after)) := by
    simp [hinner]
  have hmove := f.check_eq rule houter
  rw [List.length_append, List.countP_append, shiftVerdict_add, ← f.check_eq rule hinner] at hmove
  exact hmove

theorem smallFile_completeAt : CompleteAt smallFile 1 :=
  ⟨{ keyword := ⟨.name, "def", 1, 0⟩
     words := [⟨.name, "f", 1, 4⟩, ⟨.operator, "(", 1, 5⟩, ⟨.operator, ")", 1, 6⟩]
     colon := ⟨.operator, ":", 1, 7⟩
     frame := ⟨[], ⟨.newline, "\n", 1, 8⟩, [], ⟨.indent, "  ", 2, 0⟩, ⟨.dedent, "", 3, 0⟩,
       nofun, rfl, nofun, rfl, rfl⟩
     body := [⟨.string, "'d'", 2, 2⟩]
     last := ⟨.newline, "\n", 2, 5⟩
     tail := []
     declares := rfl
     header := ⟨by decide, by decide, by decide⟩
     paren := ⟨1, by decide, by decide, by decide⟩
     isColon := by decide
     balanced := .of_steps (by decide)
     last_type := rfl
     tail_type := nofun },
    [⟨.encoding, "utf-8", 0, 0⟩], [⟨.endMarker, "", 3, 0⟩], rfl, rfl⟩

/-- After a class header whose bracket is never closed, the small file gives the
same complaint about its description, three tokens further on. -/
theorem smallFile_check_surrounded :
    CompleteAt smallFile 1 ∧
    (FunctionRule.mk (docstringReader .small) [] []).check (ofLexemes
        ([⟨.name, "class", 1, 0⟩, ⟨.name, "A", 1, 6⟩, ⟨.operator, "(", 1, 7⟩] ++
          (smallFile ++ [⟨.name, "x", 4, 0⟩]))) (4 : Nat) =
      .ok [⟨"MissingCommentUpper", "Comment must start with an uppercase", 11, 2, []⟩] := by
  have h := check_surrounded (FunctionRule.mk (docstringReader .small) [] [])
    [⟨.name, "class", 1, 0⟩, ⟨.name, "A", 1, 6⟩, ⟨.operator, "(", 1, 7⟩] smallFile
    [⟨.name, "x", 4, 0⟩] 1 smallFile_completeAt
  have hplace : place smallFile 1 = 1 := by decide
  rw [hplace] at h
  exact ⟨smallFile_completeAt, h.trans (congrArg _ (check_smallFile .small))⟩

end DocLint
