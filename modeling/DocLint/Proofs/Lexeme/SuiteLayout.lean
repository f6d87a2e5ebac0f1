import DocLint.Proofs.Lexeme.Suite

/-!
# The scopes of a suite

What the grammar says about a scope, the layout of its declaration says too. The
proof follows the derivation of the suite, with anything before and after it.

Results:
* `Layout.lastIn_eq_scopeEnd`: the scope of a closed block ends with the last
  kept lexeme before the dedent that closes it.
* `Suite.laidOut`: every scope of a suite is found, wherever the suite stands.
* `Suite.pairwise_apart`: two scopes are nested, or one ends before the other
  declaration begins.
-/
namespace DocLint

variable {xs : List Lexeme}

/-! ## The scopes are found -/

/-- The layout of a declaration is as the scope says. -/
structure Scope.LaidOut (s : Scope) (xs : List Lexeme) : Prop where
  opener : (Layout.ofDeclaration xs s.keyword).scopeOpener = some s.colon
  closer : s.closer? xs = some (Layout.scopeEnd xs s.colon)

theorem DeclaringHead.header_words (head : DeclaringHead) : Header.Words head.words where
  oneLine x hx := Lexeme.type_ne_newline_of_isPlain (head.words_plain x hx)
  balanced := head.balanced
  noColon := head.noColon

theorem Layout.scopeOpener_of_words {before words rest : List Lexeme} {keyword colon : Lexeme}
    (hw : Header.Words words) (hc : colon.isOperator ":" = true)
    (hxs : xs = before ++ keyword :: (words ++ colon :: rest)) :
    (ofDeclaration xs before.length).scopeOpener = some (before.length + 1 + words.length) := by
  have hdrop : xs.drop (before.length + 1) = words ++ colon :: rest := by
    rw [hxs, List.append_cons]
    exact List.drop_left' (by simp)
  unfold ofDeclaration
  rw [hdrop, Header.scan_words hw hc]

/-- The last kept lexeme of a stretch is the last one before its end. -/
theorem lastIn_of_append {before middle after : List Lexeme} (last : Nat)
    (hk : ∃ x ∈ middle, x.isKept = true) (hxs : xs = before ++ (middle ++ after)) :
    lastIn Lexeme.isKept xs 0 (before.length + middle.length) =
      some (lastKeptFrom last before.length middle) := by
  obtain ⟨i, x, e, hx, hkx, hlater⟩ := lastKeptFrom_eq last before.length middle hk
  have hlt := (List.getElem?_eq_some_iff.1 hx).1
  have hget : ∀ j, j < middle.length → xs[before.length + j]? = middle[j]? := by
    intro j hj
    rw [hxs, List.getElem?_append_right (by omega), Nat.add_sub_cancel_left,
      List.getElem?_append_left hj]
  rw [e, lastIn_eq_some_iff]
  refine ⟨by omega, by omega, by rw [hget i hlt, hx]; exact hkx, fun j h1 h2 => ?_⟩
  obtain ⟨m, rfl⟩ := Nat.exists_eq_add_of_le (show before.length ≤ j by omega)
  rw [hget m (by omega)]
  cases hm : middle[m]? with
  | none => rfl
  | some y => exact hlater m y (by omega) hm

/-- The scope of an indented block ends with the last kept lexeme before its dedent. -/
theorem Layout.lastIn_eq_scopeEnd {before block rest : List Lexeme} {colon : Lexeme}
    (frame : Frame) (hblock : IndentBalanced block)
    (hxs : xs = before ++ colon :: (frame.opening ++ (block ++ frame.dedent :: rest))) :
    lastIn Lexeme.isKept xs 0 (before.length + 1 + frame.opening.length + block.length) =
      some (scopeEnd xs before.length) := by
  have hsplit : xs = before ++ colon :: (frame.comments ++ frame.newline :: (frame.fillers ++
      frame.indent :: (block ++ frame.dedent :: rest))) := by
    simp [hxs, Frame.opening]
  have hcut : xs = (before ++ colon :: (frame.comments ++ [frame.newline])) ++
      ((frame.fillers ++ frame.indent :: block) ++ frame.dedent :: rest) := by
    simp [hsplit]
  have hkept : ∃ x ∈ frame.fillers ++ frame.indent :: block, x.isKept = true :=
    ⟨frame.indent, by simp, Lexeme.isKept_of_indent frame.indent_type⟩
  have hlast := lastIn_of_append (before.length + 1 + frame.comments.length) hkept hcut
  have hlen : (before ++ colon :: (frame.comments ++ [frame.newline])).length =
      before.length + 1 + frame.comments.length + 1 := by
    simp
    omega
  have hend : before.length + 1 + frame.opening.length + block.length =
      (before ++ colon :: (frame.comments ++ [frame.newline])).length +
        (frame.fillers ++ frame.indent :: block).length := by
    simp [Frame.opening]
    omega
  rw [scopeEnd_block frame.comments_type frame.newline_type frame.fillers_type frame.indent_type
    hblock.open_le hblock.closed frame.dedent_type hsplit, hend, hlast, hlen]

/-- A header is laid out as its scope says if the scope ends there. -/
theorem Head.laidOut (head : Head) {before after : List Lexeme} {stop : Nat} {isBlock : Bool}
    (hxs : xs = before ++ (head.lexemes ++ after))
    (hend : (if isBlock then lastIn Lexeme.isKept xs 0 stop else some stop) =
      some (Layout.scopeEnd xs (before ++ head.front).length)) :
    ∀ s ∈ head.scopes before.length stop isBlock, s.LaidOut xs := by
  intro s hs
  cases head with
  | plain head => simp [Head.scopes] at hs
  | declaring head =>
    rw [Head.scopes, List.mem_singleton] at hs
    subst hs
    have hlen : (before ++ head.lead).length = before.length + head.lead.length := by simp
    have hcolon : (before ++ (Head.declaring head).front).length =
        before.length + head.lead.length + 1 + head.words.length := by
      simp [Head.front]
      omega
    refine ⟨?_, by rw [← hcolon]; exact hend⟩
    have h := Layout.scopeOpener_of_words head.header_words head.isColon
      (show xs = (before ++ head.lead) ++ head.keyword :: (head.words ++ head.colon :: after) by
        simp [hxs, Head.lexemes, Head.front, Head.colon])
    rwa [hlen] at h

/-- Every scope of a suite is found, whatever stands around the suite. -/
theorem Suite.laidOut (suite : Suite) : ∀ (before after : List Lexeme),
    xs = before ++ (suite.lexemes ++ after) → ∀ s ∈ suite.scopes before.length, s.LaidOut xs := by
  induction suite with
  | nil => exact fun before after _ s hs => by simp [Suite.scopes] at hs
  | blank x filler rest ih =>
    intro before after hxs
    have h := ih (before ++ [x]) after (by simp [hxs, Suite.lexemes])
    rwa [List.length_append, List.length_singleton] at h
  | simple line rest ih =>
    intro before after hxs
    have h := ih (before ++ line.lexemes) after (by simp [hxs, Suite.lexemes])
    rwa [List.length_append] at h
  | oneLine head line rest ih =>
    intro before after hxs s hs
    have hfront : (before ++ head.front).length + 1 = before.length + head.lexemes.length := by
      simp [Head.lexemes]
      omega
    have hhead : xs = before ++ (head.lexemes ++ (line.lexemes ++ (rest.lexemes ++ after))) := by
      simp [hxs, Suite.lexemes]
    rcases List.mem_append.1 hs with hs | hs
    · refine head.laidOut hhead ?_ s hs
      have hend := Layout.scopeEnd_line
        (fun x hx => Lexeme.type_ne_newline_of_isPlain (line.plain x hx)) line.statement line.ended
        (show xs = (before ++ head.front) ++ head.colon :: (line.words ++ line.newline ::
          (rest.lexemes ++ after)) by simp [hxs, Suite.lexemes, Head.lexemes, Line.lexemes])
      rw [hend, hfront]
      rfl
    · have h := ih (before ++ (head.lexemes ++ line.lexemes)) after
        (by simp [hxs, Suite.lexemes])
      refine h s ?_
      rwa [List.length_append, List.length_append, ← Nat.add_assoc]
  | block head frame body rest ihbody ihrest =>
    intro before after hxs s hs
    have hfront : (before ++ head.front).length + 1 = before.length + head.lexemes.length := by
      simp [Head.lexemes]
      omega
    have hhead : xs = before ++ (head.lexemes ++ (frame.opening ++ (body.lexemes ++
        frame.dedent :: (rest.lexemes ++ after)))) := by
      simp [hxs, Suite.lexemes]
    rcases List.mem_append.1 hs with hs | hs
    · refine head.laidOut hhead ?_ s hs
      have hend := Layout.lastIn_eq_scopeEnd frame body.indentBalanced
        (show xs = (before ++ head.front) ++ head.colon :: (frame.opening ++ (body.lexemes ++
          frame.dedent :: (rest.lexemes ++ after))) by simp [hxs, Suite.lexemes, Head.lexemes])
      rw [hfront] at hend
      exact hend
    rcases List.mem_append.1 hs with hs | hs
    · refine ihbody (before ++ (head.lexemes ++ frame.opening))
        (frame.dedent :: (rest.lexemes ++ after)) (by simp [hxs, Suite.lexemes]) s ?_
      rwa [List.length_append, List.length_append, ← Nat.add_assoc]
    · refine ihrest (before ++ (head.lexemes ++ (frame.opening ++ (body.lexemes ++
        [frame.dedent])))) after (by simp [hxs, Suite.lexemes]) s ?_
      simpa [Nat.add_assoc] using hs

/-! ## Nested or apart -/

/-- Of two scopes the second begins later, and it lies in the first one or
begins after its end. -/
def Scope.Apart (s t : Scope) : Prop :=
  s.keyword < t.keyword ∧ (s.stop < t.keyword ∨ s.colon < t.keyword ∧ t.stop < s.stop)

theorem Head.bounds (head : Head) {base stop : Nat} {isBlock : Bool} {s : Scope}
    (hs : s ∈ head.scopes base stop isBlock) : base ≤ s.keyword ∧ s.keyword < s.colon ∧
      s.colon + 1 = base + head.lexemes.length ∧ s.stop = stop := by
  cases head with
  | plain head => simp [Head.scopes] at hs
  | declaring head =>
    rw [Head.scopes, List.mem_singleton] at hs
    subst hs
    have hlen : (Head.declaring head).lexemes.length =
        head.lead.length + (head.words.length + 1) + 1 := by
      simp [Head.lexemes, Head.front, Nat.add_assoc]
    refine ⟨?_, ?_, ?_, rfl⟩ <;> simp only [hlen] <;> omega

theorem Suite.bounds (suite : Suite) : ∀ (base : Nat) (s : Scope), s ∈ suite.scopes base →
    base ≤ s.keyword ∧ s.keyword < s.colon ∧ s.colon < s.stop ∧
      s.stop < base + suite.lexemes.length := by
  induction suite with
  | nil => exact fun base s hs => by simp [Suite.scopes] at hs
  | blank x filler rest ih =>
    intro base s hs
    have h := ih _ s hs
    simp only [Suite.lexemes, List.length_cons]
    omega
  | simple line rest ih =>
    intro base s hs
    have h := ih _ s hs
    simp only [Suite.lexemes, List.length_append]
    omega
  | oneLine head line rest ih =>
    intro base s hs
    simp only [Suite.lexemes, List.length_append]
    rcases List.mem_append.1 hs with hs | hs
    · have h := head.bounds hs
      have hline : line.lexemes.length = line.words.length + 1 := by simp [Line.lexemes]
      obtain ⟨w, hw, -⟩ := line.statement
      have := List.length_pos_of_mem hw
      omega
    · have h := ih _ s hs
      omega
  | block head frame body rest ihbody ihrest =>
    intro base s hs
    simp only [Suite.lexemes, List.length_append, List.length_cons]
    have hopening := List.length_pos_of_mem
      (show frame.newline ∈ frame.opening by simp [Frame.opening])
    rcases List.mem_append.1 hs with hs | hs
    · have h := head.bounds hs
      omega
    rcases List.mem_append.1 hs with hs | hs
    · have h := ihbody _ s hs
      omega
    · have h := ihrest _ s hs
      omega

theorem Head.pairwise_apart (head : Head) (base stop : Nat) (isBlock : Bool) :
    (head.scopes base stop isBlock).Pairwise Scope.Apart := by
  cases head with
  | plain head => exact .nil
  | declaring head => exact List.pairwise_singleton ..

theorem Suite.pairwise_apart (suite : Suite) : ∀ base,
    (suite.scopes base).Pairwise Scope.Apart := by
  induction suite with
  | nil => exact fun base => .nil
  | blank x filler rest ih => exact fun base => ih _
  | simple line rest ih => exact fun base => ih _
  | oneLine head line rest ih =>
    intro base
    refine List.pairwise_append.2 ⟨head.pairwise_apart .., ih _, fun s hs t ht => ?_⟩
    have hs := head.bounds hs
    have ht := rest.bounds _ t ht
    have hline : line.lexemes.length = line.words.length + 1 := by simp [Line.lexemes]
    exact ⟨by omega, .inl (by omega)⟩
  | block head frame body rest ihbody ihrest =>
    intro base
    refine List.pairwise_append.2 ⟨head.pairwise_apart .., List.pairwise_append.2
      ⟨ihbody _, ihrest _, fun s hs t ht => ?_⟩, fun s hs t ht => ?_⟩
    · -- A scope of the body stops before the dedent that the rest comes after.
      have hs := body.bounds _ s hs
      have ht := rest.bounds _ t ht
      exact ⟨by omega, .inl (by omega)⟩
    · have hs := head.bounds hs
      rcases List.mem_append.1 ht with ht | ht
      · have ht := body.bounds _ t ht
        exact ⟨by omega, .inr ⟨by omega, by omega⟩⟩
      · have ht := rest.bounds _ t ht
        exact ⟨by omega, .inl (by omega)⟩

end DocLint
