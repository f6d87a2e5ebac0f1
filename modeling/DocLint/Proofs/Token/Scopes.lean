import DocLint.Proofs.Lexeme.SuiteLayout
import DocLint.Proofs.Token.Structure

/-!
# Scopes in the token sequence of a block-structured file

Results:
* `BlockFile.closer_le`: of two nested scopes the inner one closes first.
* `BlockFile.token_scope`: the token of a declaration holds the places of its
  colon and of the end of its scope.
* `blockFile_scopes`: the declarations of a file are its scopes, their tokens
  hold them, and any two of them are nested or apart.
-/
namespace DocLint

open TokenSequence

/-- A block-structured file: a suite between what starts and what ends the
stream of lexemes. -/
structure BlockFile where
  lead : List Lexeme
  suite : Suite
  tail : List Lexeme
  lead_encoding : ∀ x ∈ lead, x.type = .encoding
  tail_endMarker : ∀ x ∈ tail, x.type = .endMarker

namespace BlockFile

variable (f : BlockFile) {s t : Scope}

def lexemes : List Lexeme := f.lead ++ (f.suite.lexemes ++ f.tail)

def scopes : List Scope := f.suite.scopes f.lead.length

theorem declarations_lexemes : declarations f.lexemes = f.scopes.map Scope.keyword := by
  have hlead : declarationsFrom 0 f.lead = [] := declarationsFrom_eq_nil (fun x hx =>
    Lexeme.isDeclaration_of_type (by simp [f.lead_encoding x hx])) 0
  have htail : ∀ n, declarationsFrom n f.tail = [] := declarationsFrom_eq_nil fun x hx =>
    Lexeme.isDeclaration_of_type (by simp [f.tail_endMarker x hx])
  rw [declarations_eq, lexemes, declarationsFrom_append, declarationsFrom_append, hlead, htail,
    Nat.zero_add, List.append_nil, List.nil_append, declarationsFrom_suite]
  rfl

variable {f}

theorem mem_declarations_of_mem (hs : s ∈ f.scopes) : s.keyword ∈ declarations f.lexemes := by
  rw [declarations_lexemes]
  exact List.mem_map_of_mem hs

theorem laidOut (hs : s ∈ f.scopes) : s.LaidOut f.lexemes :=
  f.suite.laidOut f.lead f.tail rfl s hs

theorem closer_kept (hs : s ∈ f.scopes) : Layout.scopeEnd f.lexemes s.colon ≤ s.stop ∧
    ∃ x, f.lexemes[Layout.scopeEnd f.lexemes s.colon]? = some x ∧ x.isKept = true := by
  have hsound := Layout.sound_of_mem (mem_declarations_of_mem hs)
  have hc := Layout.scopeCloser_ofDeclaration f.lexemes s.keyword
  rw [(laidOut hs).opener, Option.map_some] at hc
  obtain ⟨-, -, -, -, hkept⟩ := hsound.scopeCloser_kept hc
  refine ⟨?_, hkept⟩
  have hcl := (laidOut hs).closer
  unfold Scope.closer? at hcl
  split at hcl
  · have := (lastIn_eq_some_iff.1 hcl).2.1
    omega
  · rw [Option.some.injEq] at hcl
    omega

/-- Of two scopes of which one stops before the other, it closes no later. -/
theorem closer_le (hs : s ∈ f.scopes) (ht : t ∈ f.scopes) (hstop : t.stop < s.stop) :
    Layout.scopeEnd f.lexemes t.colon ≤ Layout.scopeEnd f.lexemes s.colon := by
  obtain ⟨hle, x, hx, hkept⟩ := closer_kept ht
  have hcl := (laidOut hs).closer
  unfold Scope.closer? at hcl
  split at hcl
  · -- Nothing after the closer is kept before the dedent.
    obtain ⟨-, -, -, hlast⟩ := lastIn_eq_some_iff.1 hcl
    by_contra hlt
    have := hlast _ (by omega) (show Layout.scopeEnd f.lexemes t.colon < s.stop by omega)
    rw [hx, Option.any_some, hkept] at this
    cases this
  · rw [Option.some.injEq] at hcl
    omega

theorem token_scope (hs : s ∈ f.scopes) : ∃ t,
    (ofLexemes f.lexemes).tokens[place f.lexemes s.keyword]? = some t ∧ t.isDeclaration = true ∧
      t.extent.scopeOpener = some (place f.lexemes s.colon : Int) ∧
      t.extent.scopeCloser =
        some (place f.lexemes (Layout.scopeEnd f.lexemes s.colon) : Int) := by
  have hk := mem_declarations_of_mem hs
  obtain ⟨x, hx, hd⟩ := mem_declarations.1 hk
  have ht := getElem?_ofLexemes_place hx (Lexeme.isKept_of_isDeclaration hd)
  refine ⟨_, ht, (isDeclaration_iff ht).2 ⟨_, hk, rfl⟩, ?_, ?_⟩
  · simp only [Lexeme.toToken, hd, if_true, Layout.toExtent, (laidOut hs).opener]
    rfl
  · simp only [Lexeme.toToken, hd, if_true, Layout.toExtent, Layout.scopeCloser_ofDeclaration,
      (laidOut hs).opener]
    rfl

/-- Scopes are in the order of their keywords. -/
theorem apart_of_lt (hs : s ∈ f.scopes) (ht : t ∈ f.scopes) (h : s.keyword < t.keyword) :
    s.Apart t := by
  have hpair : f.scopes.Pairwise Scope.Apart := f.suite.pairwise_apart f.lead.length
  rw [List.pairwise_iff_getElem] at hpair
  obtain ⟨a, ha, rfl⟩ := List.getElem_of_mem hs
  obtain ⟨b, hb, rfl⟩ := List.getElem_of_mem ht
  rcases Nat.lt_trichotomy a b with hab | rfl | hab
  · exact hpair a b ha hb hab
  · omega
  · have := (hpair b a hb ha hab).1
    omega

end BlockFile

/-- In a block-structured file the declarations are the scopes of the grammar.
The token of each holds the place of its colon, and the place of the end of its
line or of the last kept lexeme before the dedent of its block. And of any two
declarations the later one lies within the scope of the earlier one, or begins
after its end. -/
theorem blockFile_scopes (f : BlockFile) :
    declarations f.lexemes = f.scopes.map Scope.keyword ∧
    (∀ s ∈ f.scopes, ∃ c t, s.closer? f.lexemes = some c ∧
      (ofLexemes f.lexemes).tokens[place f.lexemes s.keyword]? = some t ∧
      t.isDeclaration = true ∧
      t.extent.scopeOpener = some (place f.lexemes s.colon : Int) ∧
      t.extent.scopeCloser = some (place f.lexemes c : Int)) ∧
    ∀ (i j : Nat) (t u : Token), i < j →
      (ofLexemes f.lexemes).tokens[i]? = some t → t.isDeclaration = true →
      (ofLexemes f.lexemes).tokens[j]? = some u → u.isDeclaration = true →
      ∃ o c o' c' : Int, t.extent.scopeOpener = some o ∧ t.extent.scopeCloser = some c ∧
        u.extent.scopeOpener = some o' ∧ u.extent.scopeCloser = some c' ∧
        (c < j ∨ o < j ∧ c' ≤ c) := by
  refine ⟨f.declarations_lexemes, fun s hs => ?_, fun i j t u hij ht htd hu hud => ?_⟩
  · obtain ⟨t, ht, hd, ho, hc⟩ := BlockFile.token_scope hs
    exact ⟨_, t, (BlockFile.laidOut hs).closer, ht, hd, ho, hc⟩
  · have hscope : ∀ {n : Nat} {v : Token}, (ofLexemes f.lexemes).tokens[n]? = some v →
        v.isDeclaration = true → ∃ s ∈ f.scopes, place f.lexemes s.keyword = n := by
      intro n v hv hvd
      obtain ⟨k, hk, rfl⟩ := (isDeclaration_iff hv).1 hvd
      rw [f.declarations_lexemes] at hk
      obtain ⟨s, hs, rfl⟩ := List.mem_map.1 hk
      exact ⟨s, hs, rfl⟩
    obtain ⟨s, hs, rfl⟩ := hscope ht htd
    obtain ⟨s', hs', rfl⟩ := hscope hu hud
    obtain ⟨t', ht', -, ho, hc⟩ := BlockFile.token_scope hs
    obtain ⟨u', hu', -, ho', hc'⟩ := BlockFile.token_scope hs'
    obtain rfl : t = t' := by rwa [ht, Option.some.injEq] at ht'
    obtain rfl : u = u' := by rwa [hu, Option.some.injEq] at hu'
    refine ⟨_, _, _, _, ho, hc, ho', hc', ?_⟩
    have hlt : s.keyword < s'.keyword := by
      by_contra hle
      have := place_le_place f.lexemes (show s'.keyword ≤ s.keyword by omega)
      omega
    obtain ⟨-, hafter | ⟨hin, hstop⟩⟩ := BlockFile.apart_of_lt hs hs' hlt
    · obtain ⟨hle, x, hx, hk⟩ := BlockFile.closer_kept hs
      left
      exact_mod_cast place_lt_place hx hk (show _ < s'.keyword by omega)
    · right
      obtain ⟨y, hy, hk⟩ := (Layout.sound_of_mem
        (BlockFile.mem_declarations_of_mem hs)).scopeOpener_kept (BlockFile.laidOut hs).opener
      refine ⟨by exact_mod_cast place_lt_place hy hk hin, ?_⟩
      exact_mod_cast place_le_place f.lexemes (BlockFile.closer_le hs hs' hstop)

/-- `class A:` with the block `def f(): x`. -/
def nestedFile : BlockFile where
  lead := [⟨.encoding, "utf-8", 0, 0⟩]
  suite := .block
    (.declaring ⟨[], ⟨.name, "class", 1, 0⟩, [⟨.name, "A", 1, 6⟩], ⟨.operator, ":", 1, 7⟩,
      by simp, by decide, by decide, by decide, by decide, by decide⟩)
    ⟨[], ⟨.newline, "\n", 1, 8⟩, [], ⟨.indent, "  ", 2, 0⟩, ⟨.dedent, "", 3, 0⟩,
      by simp, rfl, by simp, rfl, rfl⟩
    (.oneLine
      (.declaring ⟨[], ⟨.name, "def", 2, 2⟩,
        [⟨.name, "f", 2, 6⟩, ⟨.operator, "(", 2, 7⟩, ⟨.operator, ")", 2, 8⟩],
        ⟨.operator, ":", 2, 9⟩, by simp, by decide, by decide, by decide, by decide, by decide⟩)
      ⟨[⟨.name, "x", 2, 11⟩], ⟨.newline, "\n", 2, 12⟩, by decide, by decide, rfl⟩
      .nil)
    .nil
  tail := [⟨.endMarker, "", 3, 0⟩]
  lead_encoding := by decide
  tail_endMarker := by decide

/-- The scope of the function and the scope of the class around it end together. -/
theorem nestedFile_scopes : nestedFile.scopes.map Scope.keyword = [1, 6] ∧
    (∃ c t, ({ keyword := 1, colon := 3, stop := 13, isBlock := true } : Scope).closer?
        nestedFile.lexemes = some c ∧
      (ofLexemes nestedFile.lexemes).tokens[place nestedFile.lexemes 1]? = some t ∧
      t.isDeclaration = true ∧
      t.extent.scopeOpener = some (place nestedFile.lexemes 3 : Int) ∧
      t.extent.scopeCloser = some (place nestedFile.lexemes c : Int)) := by
  obtain ⟨h1, h2, -⟩ := blockFile_scopes nestedFile
  exact ⟨by rw [← h1]; decide, h2 _ (by decide)⟩

end DocLint
