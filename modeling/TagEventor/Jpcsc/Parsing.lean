import TagEventor.Jpcsc.Notation

/-!
# What `s2ba` accepts

`s2ba` writes the length of a bracket after its contents. `Converts` is what one round of its loop
does; by the rounds the loop writes what the grammar says (`Reads.loop`), and what the loop accepts
is read by the grammar (`reads_of_loop`). So exactly the texts of the notation are accepted
(`s2ba_accepts_iff`).
-/

namespace TagEventor.Jpcsc

section
variable (unicodeDigit : Char → Option Nat)

/-- What a round that throws nothing does: the variables and the rest of the text. -/
inductive Converts : Conversion → JString → Conversion → JString → Prop where
  | colon {v text} :
    v.asciiMode = false →
    Converts v (':' :: text) v text
  | space {v text n} :
    v.asciiMode = false →
    text ≠ [] ∧ text.head? ≠ some ' ' →
    Converts v (' ' :: (List.replicate n ' ' ++ text)) v text
  | opened {v text} :
    v.asciiMode = false →
    v.braceTab.length < MAX_BRACE_CNT →
    Converts v ('#' :: '(' :: text) v.opened text
  | closed {v start braceTab text} :
    v.asciiMode = false →
    v.braceTab = start :: braceTab →
    Room v.ba start 1 →
    Converts v (')' :: text)
      { v with ba := v.ba.set start (UInt8.ofNat (v.bpos - start - 1)), braceTab } text
  | bar {v text} :
    Converts v ('|' :: text) { v with asciiMode := !v.asciiMode } text
  | char {v c text} :
    v.asciiMode = true →
    c ≠ '|' ∧ c.toNat < 256 →
    Room v.ba v.bpos 1 →
    Converts v (c :: text) (v.wrote [UInt8.ofNat c.toNat]) text
  | number {v token b text} :
    v.asciiMode = false →
    Hex unicodeDigit token b text →
    Room v.ba v.bpos 1 →
    Converts v token (v.wrote [b]) text

end

section
variable {unicodeDigit : Char → Option Nat} {s text rest : JString} {c : Char} {b : BYTE}
  {v v' : Conversion}

/-- The characters that were taken are skipped. -/
lemma loop_skip {n} :
    s2baLoop unicodeDigit s text n v = s2baLoop unicodeDigit s (text.drop n) 0 v := by
  induction text generalizing n with
  | nil =>
    rw [List.drop_nil]
    cases n <;> rfl
  | cons c text ih =>
    cases n with
    | zero => rfl
    | succ n => exact ih

/-- All spaces are taken. -/
lemma takeWhile_spaces {n} (head : text.head? ≠ some ' ') :
    ((List.replicate n ' ' ++ text).takeWhile (· = ' ')).length = n := by
  induction n with
  | zero =>
    cases text with
    | nil => rfl
    | cons c text =>
      have other : ¬ c = ' ' := fun e => head (congrArg some e)
      rw [List.replicate_zero, List.nil_append, List.takeWhile_cons_of_neg (by simpa using other)]
      rfl
  | succ n ih =>
    rw [List.replicate_succ, List.cons_append, List.takeWhile_cons_of_pos (by rfl)]
    exact congrArg Nat.succ ih

/-- The spaces at the beginning of a text, and what follows them. -/
lemma spaces_before : ∃ n rest, text = List.replicate n ' ' ++ rest ∧ rest.head? ≠ some ' ' := by
  induction text with
  | nil => exact ⟨0, [], rfl, nofun⟩
  | cons c text ih =>
    by_cases space : c = ' '
    · obtain ⟨n, rest, e, head⟩ := ih
      subst space
      exact ⟨n + 1, rest, congrArg _ e, head⟩
    · exact ⟨0, c :: text, rfl, fun e => space (Option.some.inj e)⟩

/-- A bar changes between the two modes. -/
lemma Converts.bar_to {mode} (other : v.asciiMode = !mode) :
    Converts unicodeDigit v ('|' :: text) (v.inMode mode) text := by
  have bar := @Converts.bar unicodeDigit v text
  rwa [other, Bool.not_not] at bar

/-- A round throws nothing exactly if it does one of these. -/
lemma round_converts {used} : v.round unicodeDigit s c text = .ok (v', used) →
    0 < used ∧ Converts unicodeDigit v (c :: text) v' ((c :: text).drop used) := by
  intro h
  unfold Conversion.round at h
  split at h
  next colon =>
    obtain ⟨mode, rfl⟩ := colon
    cases h
    exact ⟨Nat.succ_pos _, .colon mode⟩
  split at h
  next space =>
    obtain ⟨mode, rfl⟩ := space
    obtain ⟨n, rest, rfl, head⟩ := @spaces_before text
    dsimp only at h
    rw [takeWhile_spaces head] at h
    split at h
    next inside =>
      cases h
      refine ⟨Nat.succ_pos _, ?_⟩
      have some : rest ≠ [] := by
        rintro rfl
        rw [List.append_nil, List.length_replicate] at inside
        exact Nat.lt_irrefl _ inside
      rw [List.drop_succ_cons, List.drop_left' List.length_replicate]
      exact .space mode ⟨some, head⟩
    next => cases h
  split at h
  next bracket =>
    obtain ⟨mode, rfl⟩ := bracket
    split at h
    · cases h
    split at h
    · cases h
    next head =>
      split at h
      · cases h
      next few =>
        cases h
        rw [not_not] at head
        obtain ⟨text', rfl⟩ := List.head?_eq_some_iff.1 head
        exact ⟨Nat.succ_pos _, .opened mode (Nat.lt_of_not_le few)⟩
  split at h
  next close =>
    obtain ⟨mode, rfl⟩ := close
    split at h
    · cases h
    next start braceTab entry =>
      split at h
      · cases h
      next ba stored =>
        cases h
        obtain ⟨room, rfl⟩ := store_some.1 stored
        exact ⟨Nat.succ_pos _, .closed mode entry room⟩
  split at h
  next bar =>
    subst bar
    cases h
    exact ⟨Nat.succ_pos _, .bar⟩
  next noBar =>
    split at h
    next mode =>
      split at h
      · cases h
      next inside =>
        split at h
        · cases h
        next ba stored =>
          cases h
          obtain ⟨room, rfl⟩ := store_some.1 stored
          exact ⟨Nat.succ_pos _, .char mode ⟨noBar, Nat.lt_of_not_le inside⟩ room⟩
    next mode =>
      rw [Bool.not_eq_true] at mode
      split at h
      · cases h
      next next converted =>
        cases h
        obtain ⟨⟨n, taken⟩, token, converted⟩ := Option.bind_eq_some_iff.1 converted
        obtain ⟨value, number, converted⟩ := Option.bind_eq_some_iff.1 converted
        obtain ⟨ba, stored, converted⟩ := Option.bind_eq_some_iff.1 converted
        cases converted
        obtain ⟨room, rfl⟩ := store_some.1 stored
        obtain ⟨taken, hex⟩ := hexToken_reads token number
        exact ⟨taken, .number mode hex room⟩

/-- A loop that throws nothing ends at once, or goes on after a round. -/
lemma loop_converts (h : s2baLoop unicodeDigit s text 0 v = .ok v') :
    text = [] ∧ v' = v ∨ ∃ v1 text1, Converts unicodeDigit v text v1 text1 ∧
      s2baLoop unicodeDigit s text1 0 v1 = .ok v' := by
  cases text with
  | nil =>
    cases h
    exact .inl ⟨rfl, rfl⟩
  | cons c text =>
    rw [s2baLoop] at h
    split at h
    · cases h
    next v1 used round =>
      obtain ⟨taken, converts⟩ := round_converts round
      obtain ⟨used, rfl⟩ := Nat.exists_eq_succ_of_ne_zero (Nat.ne_of_gt taken)
      refine .inr ⟨v1, _, converts, ?_⟩
      rw [← h]
      exact loop_skip.symm

/-- A round that throws nothing, one character of the text. -/
lemma loop_round {used} (h : v.round unicodeDigit s c text = .ok (v', used + 1)) :
    s2baLoop unicodeDigit s (c :: text) 0 v = s2baLoop unicodeDigit s (text.drop used) 0 v' := by
  rw [s2baLoop, h]
  exact loop_skip

/-- The round at a character that means nothing else. -/
lemma Plain.round (h : Plain c) (mode : v.asciiMode = false) :
    v.round unicodeDigit s c text =
      match v.number unicodeDigit (c :: text) with
      | none => .error (.RuntimeException ("invalid hexadecimal string ".toList ++ s), v.ba)
      | some next => .ok next := by
  obtain ⟨colon, space, bracket, close, bar⟩ := h
  unfold Conversion.round
  rw [if_neg (fun h => colon h.2), if_neg (fun h => space h.2), if_neg (fun h => bracket h.2),
    if_neg (fun h => close h.2), if_neg bar]
  refine (if_neg (by rw [mode]; exact Bool.false_ne_true)).trans ?_
  cases v.number unicodeDigit (c :: text) with
  | none => rfl
  | some next => rfl

/-- The loop makes these rounds. -/
lemma Converts.loop {text'} (h : Converts unicodeDigit v text v' text') :
    s2baLoop unicodeDigit s text 0 v = s2baLoop unicodeDigit s text' 0 v' := by
  cases h with
  | colon mode => exact loop_round (if_pos ⟨mode, rfl⟩)
  | space mode some =>
    rename_i n
    obtain ⟨more, head⟩ := some
    refine (@loop_round unicodeDigit s _ _ v v n ?_).trans ?_
    · have inside : n < (List.replicate n ' ' ++ text').length := by
        rw [List.length_append, List.length_replicate]
        exact Nat.lt_add_of_pos_right (List.length_pos_iff.2 more)
      unfold Conversion.round
      rw [if_neg (fun h => absurd h.2 (by decide)), if_pos ⟨mode, rfl⟩]
      dsimp only
      rw [takeWhile_spaces head, if_pos inside]
    · rw [List.drop_left' List.length_replicate]
  | opened mode few =>
    refine @loop_round unicodeDigit s _ _ _ _ 1 ?_
    unfold Conversion.round
    rw [if_neg (fun h => absurd h.2 (by decide)), if_neg (fun h => absurd h.2 (by decide)),
      if_pos ⟨mode, rfl⟩, if_neg (List.cons_ne_nil _ _), if_neg (not_not_intro (by rfl)),
      if_neg (Nat.not_le_of_lt few)]
    rfl
  | closed mode entry room =>
    refine @loop_round unicodeDigit s _ _ _ _ 0 ?_
    unfold Conversion.round
    iterate 3 rw [if_neg (fun h => absurd h.2 (by decide))]
    rw [if_pos ⟨mode, rfl⟩, entry]
    dsimp only
    rw [store_some.2 ⟨room, rfl⟩]
  | bar =>
    refine @loop_round unicodeDigit s _ _ _ _ 0 ?_
    unfold Conversion.round
    iterate 4 rw [if_neg (fun h => absurd h.2 (by decide))]
    exact if_pos rfl
  | char mode inside room =>
    refine @loop_round unicodeDigit s _ _ _ _ 0 ?_
    unfold Conversion.round
    iterate 4 rw [if_neg (fun h => by rw [mode] at h; cases h.1)]
    rw [if_neg inside.1, if_pos mode, if_neg (Nat.not_le_of_lt inside.2),
      store_some.2 ⟨room, rfl⟩]
    rfl
  | number mode hex room =>
    obtain ⟨c, text, rfl, plain⟩ := hex.plain
    obtain ⟨n, used, value, token, number, rfl, taken, rfl⟩ := hex.token
    obtain ⟨used, rfl⟩ := Nat.exists_eq_succ_of_ne_zero (Nat.ne_of_gt taken)
    refine loop_round ?_
    have converted : v.number unicodeDigit (c :: text) =
        some (v.wrote [UInt8.ofInt value], used + 1) := by
      unfold Conversion.number
      rw [token]
      show (parseInt unicodeDigit n).bind _ = _
      rw [number]
      show (store v.ba v.bpos _).bind _ = _
      rw [store_some.2 ⟨room, rfl⟩]
      rfl
    rw [plain.round mode, converted]

end

section
variable {unicodeDigit : Char → Option Nat} {s text text' rest : JString} {v v' : Conversion}
  {spec : Spec}

/-- Spaces at the end of the text run off it. -/
lemma loop_spaces_last {n} (mode : v.asciiMode = false) :
    s2baLoop unicodeDigit s (List.replicate (n + 1) ' ') 0 v =
      .error (.StringIndexOutOfBoundsException, v.ba) := by
  rw [List.replicate_succ, s2baLoop]
  unfold Conversion.round
  have taken := @takeWhile_spaces [] n nofun
  rw [List.append_nil] at taken
  rw [if_neg (fun h => absurd h.2 (by decide)), if_pos ⟨mode, rfl⟩]
  dsimp only
  rw [taken, List.length_replicate, if_neg (Nat.lt_irrefl n)]

/-- Spaces can be skipped one by one, as long as something follows. -/
lemma loop_space (mode : v.asciiMode = false) (more : text ≠ []) :
    s2baLoop unicodeDigit s (' ' :: text) 0 v = s2baLoop unicodeDigit s text 0 v := by
  obtain ⟨n, rest, rfl, head⟩ := @spaces_before text
  cases rest with
  | nil =>
    rw [List.append_nil] at more ⊢
    cases n with
    | zero => exact absurd rfl more
    | succ n => exact (loop_spaces_last (n := n + 1) mode).trans (loop_spaces_last mode).symm
  | cons c rest =>
    have some : c :: rest ≠ [] ∧ (c :: rest).head? ≠ some ' ' := ⟨List.cons_ne_nil _ _, head⟩
    rw [(Converts.space mode some).loop]
    cases n with
    | zero => rfl
    | succ n => exact (Converts.space mode some).loop.symm

/-- Spaces may stand before anything. -/
lemma Reads.spaces {n} (more : text ≠ []) (h : Reads unicodeDigit text spec rest) :
    Reads unicodeDigit (List.replicate n ' ' ++ text) spec rest := by
  induction n with
  | zero => exact h
  | succ n ih => exact .space (List.append_ne_nil_of_right_ne_nil _ more) ih

/-- The characters between bars are written as they are. -/
lemma loop_chars {quoted} (inside : ∀ c ∈ quoted, c ≠ '|' ∧ c.toNat < 256)
    (mode : v.asciiMode = true) (room : Room v.ba v.bpos quoted.length) :
    s2baLoop unicodeDigit s (quoted ++ text) 0 v =
      s2baLoop unicodeDigit s text 0 (v.wrote (charBytes quoted)) := by
  induction quoted generalizing v with
  | nil => rfl
  | cons c quoted ih =>
    rw [List.length_cons, Nat.add_comm, room_add] at room
    have first : Converts unicodeDigit v (c :: (quoted ++ text))
        (v.wrote [UInt8.ofNat c.toNat]) (quoted ++ text) :=
      .char mode (inside c List.mem_cons_self) room.1
    have others := @ih (v.wrote [UInt8.ofNat c.toNat])
      (fun c' mem => inside c' (List.mem_cons_of_mem _ mem)) mode (Conversion.room_wrote.2 room.2)
    rw [List.cons_append, first.loop, others, Conversion.wrote_wrote]
    rfl

/-- What the notation stands for is written, where there is room for it. -/
lemma Reads.loop (h : Reads unicodeDigit text spec rest) (mode : v.asciiMode = false)
    (few : v.braceTab.length + spec.nesting ≤ MAX_BRACE_CNT)
    (room : Room v.ba v.bpos spec.bytes.length) :
    ∃ mode', (rest ≠ [] → mode' = false) ∧
      s2baLoop unicodeDigit s text 0 v =
        s2baLoop unicodeDigit s rest 0 ((v.wrote spec.bytes).inMode mode') := by
  induction h generalizing v with
  | nil => exact ⟨false, fun _ => rfl, by rw [← mode]; rfl⟩
  | colon _ ih =>
    rw [(Converts.colon mode).loop]
    exact ih mode few room
  | space more _ ih =>
    rw [loop_space mode more]
    exact ih mode few room
  | @hex token b text spec rest hex _ ih =>
    have room : Room v.ba v.bpos (1 + spec.bytes.length) := by
      rw [Nat.add_comm]
      exact room
    rw [room_add] at room
    obtain ⟨mode', more, e⟩ := @ih (v.wrote [b]) mode few (Conversion.room_wrote.2 room.2)
    refine ⟨mode', more, ?_⟩
    rw [(Converts.number mode hex room.1).loop, e, Conversion.wrote_wrote]
    rfl
  | @chars quoted text spec rest inside _ ih =>
    rw [Spec.bytes_chars, List.length_append, charBytes, List.length_map, room_add] at room
    rw [Spec.nesting_chars] at few
    have opening : Converts unicodeDigit v ('|' :: (quoted ++ '|' :: text)) (v.inMode true)
        (quoted ++ '|' :: text) := .bar_to mode
    have quotes := @loop_chars unicodeDigit s ('|' :: text) (v.inMode true) quoted inside rfl room.1
    have closing : Converts unicodeDigit ((v.inMode true).wrote (charBytes quoted)) ('|' :: text)
        ((v.wrote (charBytes quoted)).inMode false) text := .bar_to rfl
    have rest_room : Room ((v.wrote (charBytes quoted)).inMode false).ba
        (v.wrote (charBytes quoted)).bpos spec.bytes.length := by
      refine Conversion.room_wrote.2 ?_
      show Room v.ba (v.bpos + (charBytes quoted).length) _
      rw [charBytes, List.length_map]
      exact room.2
    obtain ⟨mode', more, e⟩ := @ih ((v.wrote (charBytes quoted)).inMode false) rfl few rest_room
    refine ⟨mode', more, ?_⟩
    rw [List.cons_append, opening.loop, quotes, closing.loop, e, Spec.bytes_chars,
      ← Conversion.wrote_wrote]
    rfl
  | @lastChars quoted inside =>
    rw [Spec.bytes_chars, List.length_append, charBytes, List.length_map, room_add] at room
    have opening : Converts unicodeDigit v ('|' :: quoted) (v.inMode true) quoted := .bar_to mode
    have quotes := @loop_chars unicodeDigit s [] (v.inMode true) quoted inside rfl room.1
    rw [List.append_nil] at quotes
    refine ⟨true, absurd rfl, ?_⟩
    rw [opening.loop, quotes, Spec.bytes_chars]
    show _ = s2baLoop unicodeDigit s [] 0 ((v.wrote (_ ++ [])).inMode true)
    rw [List.append_nil]
    rfl
  | @brace text inner text' spec rest _ _ ih ih' =>
    have depth : v.braceTab.length < MAX_BRACE_CNT ∧
        v.braceTab.length + 1 + inner.nesting ≤ MAX_BRACE_CNT ∧
        v.braceTab.length + spec.nesting ≤ MAX_BRACE_CNT := by
      change _ + max _ _ ≤ _ at few
      omega
    have rooms : Room v.ba v.bpos 1 ∧ Room v.ba (v.bpos + 1) inner.bytes.length ∧
        Room v.ba (v.bpos + 1 + inner.bytes.length) spec.bytes.length := by
      rw [← room_add, ← room_add]
      rwa [← Spec.length_brace]
    obtain ⟨mode1, more1, e1⟩ := @ih v.opened mode depth.2.1 rooms.2.1
    have closing : Converts unicodeDigit ((v.opened.wrote inner.bytes).inMode mode1)
        (')' :: text') (v.wrote (UInt8.ofNat inner.bytes.length :: inner.bytes)) text' := by
      rw [Conversion.wrote_length, more1 (List.cons_ne_nil _ _), ← mode]
      exact .closed mode rfl (Conversion.room_wrote.2 rooms.1)
    have rest_room : Room (v.wrote (UInt8.ofNat inner.bytes.length :: inner.bytes)).ba
        (v.bpos + (inner.bytes.length + 1)) spec.bytes.length := by
      rw [Conversion.room_wrote, Nat.add_comm inner.bytes.length, ← Nat.add_assoc]
      exact rooms.2.2
    obtain ⟨mode', more, e⟩ := @ih' (v.wrote _) mode depth.2.2 rest_room
    refine ⟨mode', more, ?_⟩
    rw [(Converts.opened mode depth.1).loop, e1, closing.loop, e, Conversion.wrote_wrote]
    rfl

/-- Between bars there are characters up to the next bar or the end. -/
lemma chars_of_loop (mode : v.asciiMode = true)
    (h : s2baLoop unicodeDigit s text 0 v = .ok v') :
    ∃ quoted, (∀ c ∈ quoted, c ≠ '|' ∧ c.toNat < 256) ∧ Room v.ba v.bpos quoted.length ∧
      (text = quoted ∧ v' = v.wrote (charBytes quoted) ∨
        ∃ text', text = quoted ++ '|' :: text' ∧ s2baLoop unicodeDigit s text' 0
          ((v.wrote (charBytes quoted)).inMode false) = .ok v') := by
  induction text generalizing v with
  | nil =>
    cases h
    exact ⟨[], nofun, .inl rfl, .inl ⟨rfl, rfl⟩⟩
  | cons c text ih =>
    rcases loop_converts h with ⟨nil, _⟩ | ⟨v1, text1, converts, next⟩
    · cases nil
    generalize e : c :: text = token at converts
    cases converts with
    | bar =>
      cases e
      refine ⟨[], nofun, .inl rfl, .inr ⟨text, rfl, ?_⟩⟩
      rw [mode] at next
      exact next
    | char _ inside room =>
      cases e
      obtain ⟨quoted, all, others, ends⟩ := @ih (v.wrote [_]) mode next
      rw [Conversion.room_wrote] at others
      refine ⟨c :: quoted, ?_, ?_, ?_⟩
      · intro c' mem
        rcases List.mem_cons.1 mem with rfl | mem
        · exact inside
        · exact all c' mem
      · rw [List.length_cons, Nat.add_comm, room_add]
        exact ⟨room, others⟩
      · rw [Conversion.wrote_wrote] at ends
        rcases ends with ⟨rfl, e⟩ | ⟨text', rfl, after⟩
        · exact .inl ⟨rfl, e⟩
        · exact .inr ⟨text', rfl, after⟩
    | colon mode' => cases mode.symm.trans mode'
    | space mode' => cases mode.symm.trans mode'
    | opened mode' => cases mode.symm.trans mode'
    | closed mode' => cases mode.symm.trans mode'
    | number mode' => cases mode.symm.trans mode'

/-- At a bracket that closes, the last one that was opened is closed. -/
lemma Converts.closes {v1 text1} (h : Converts unicodeDigit v (')' :: text) v1 text1)
    (mode : v.asciiMode = false) :
    ∃ start braceTab, v.braceTab = start :: braceTab ∧ Room v.ba start 1 ∧ text1 = text ∧
      v1 = { v with ba := v.ba.set start (UInt8.ofNat (v.bpos - start - 1)), braceTab } := by
  generalize e : ')' :: text = token at h
  cases h with
  | closed _ entry room =>
    cases e
    exact ⟨_, _, entry, room, rfl, rfl⟩
  | number _ hex _ =>
    obtain ⟨c, _, e', _, _, _, close, _⟩ := hex.plain
    cases e.trans e'
    exact absurd rfl close
  | char mode' => cases mode.symm.trans mode'
  | colon => cases e
  | space => cases e
  | opened => cases e
  | bar => cases e

/-- The text is read by the grammar, up to the end or to a bracket that is closed, and what was read
has been written. -/
def ReadUpTo (unicodeDigit : Char → Option Nat) (s text : JString) (v v' : Conversion) : Prop :=
  ∃ spec rest, Reads unicodeDigit text spec rest ∧ rest.length ≤ text.length ∧
    v.braceTab.length + spec.nesting ≤ MAX_BRACE_CNT ∧ Room v.ba v.bpos spec.bytes.length ∧
    (rest = [] ∧ v.braceTab = [] ∧ (∃ mode', v' = (v.wrote spec.bytes).inMode mode') ∨
      (∃ rest', rest = ')' :: rest') ∧
        s2baLoop unicodeDigit s rest 0 (v.wrote spec.bytes) = .ok v')

/-- The end of the text, if no bracket is open. -/
lemma ReadUpTo.nil (few : v.braceTab.length ≤ MAX_BRACE_CNT) (closed : v.braceTab = []) :
    ReadUpTo unicodeDigit s [] v v :=
  ⟨.nil, [], .nil, Nat.le_refl _, few, .inl rfl, .inl ⟨rfl, closed, _, rfl⟩⟩

/-- A number, and what follows it. -/
lemma ReadUpTo.number {token b} (hex : Hex unicodeDigit token b text) (room : Room v.ba v.bpos 1)
    (h : ReadUpTo unicodeDigit s text (v.wrote [b]) v') : ReadUpTo unicodeDigit s token v v' := by
  obtain ⟨spec, rest, reads, less, deep, others, ends⟩ := h
  have shorter := hex.shorter
  rw [Conversion.room_wrote] at others
  refine ⟨.byte _ spec, rest, .hex hex reads, by omega, deep, ?_, ?_⟩
  · show Room v.ba v.bpos (spec.bytes.length + 1)
    rw [Nat.add_comm, room_add]
    exact ⟨room, others⟩
  · rw [Conversion.wrote_wrote] at ends
    exact ends

/-- Characters between bars, and what follows them. -/
lemma ReadUpTo.chars {quoted} (mode : v.asciiMode = false)
    (inside : ∀ c ∈ quoted, c ≠ '|' ∧ c.toNat < 256) (room : Room v.ba v.bpos quoted.length)
    (h : ReadUpTo unicodeDigit s text ((v.wrote (charBytes quoted)).inMode false) v') :
    ReadUpTo unicodeDigit s ('|' :: (quoted ++ '|' :: text)) v v' := by
  obtain ⟨spec, rest, reads, less, deep, others, ends⟩ := h
  refine ⟨.chars quoted spec, rest, .chars inside reads, ?_, ?_, ?_, ?_⟩
  · rw [List.length_cons, List.length_append, List.length_cons]
    omega
  · rw [Spec.nesting_chars]
    exact deep
  · rw [Spec.bytes_chars, List.length_append, charBytes, List.length_map, room_add]
    refine ⟨room, ?_⟩
    have length : (charBytes quoted).length = quoted.length := List.length_map _
    rw [← length]
    exact Conversion.room_wrote.1 others
  · have same : (v.wrote (charBytes quoted)).inMode false = v.wrote (charBytes quoted) := by
      rw [← mode]
      rfl
    change _ ∨ _ ∧ s2baLoop _ _ _ 0 (((v.wrote _).inMode false).wrote _) = _ at ends
    rw [same] at ends
    rw [Spec.bytes_chars, ← Conversion.wrote_wrote]
    exact ends

/-- Characters behind a bar, up to the end of the text. -/
lemma ReadUpTo.lastChars {quoted} (inside : ∀ c ∈ quoted, c ≠ '|' ∧ c.toNat < 256)
    (room : Room v.ba v.bpos quoted.length) (few : v.braceTab.length ≤ MAX_BRACE_CNT)
    (closed : v.braceTab = []) :
    ReadUpTo unicodeDigit s ('|' :: quoted) v ((v.wrote (charBytes quoted)).inMode true) := by
  refine ⟨.chars quoted .nil, [], .lastChars inside, Nat.zero_le _, ?_, ?_, .inl ⟨rfl, closed, ?_⟩⟩
  · rw [Spec.nesting_chars]
    exact few
  · rw [Spec.bytes_chars, List.length_append, charBytes, List.length_map]
    exact room
  · rw [Spec.bytes_chars]
    refine ⟨true, ?_⟩
    show _ = (v.wrote (_ ++ [])).inMode true
    rw [List.append_nil]

/-- A bracket with its contents, and what follows the bracket that closes it. -/
lemma ReadUpTo.brace (mode : v.asciiMode = false)
    (contents : ReadUpTo unicodeDigit s text v.opened v')
    (follows : ∀ {text2 v2}, text2.length < text.length → v2.asciiMode = false →
      v2.braceTab = v.braceTab → s2baLoop unicodeDigit s text2 0 v2 = .ok v' →
      ReadUpTo unicodeDigit s text2 v2 v') :
    ReadUpTo unicodeDigit s ('#' :: '(' :: text) v v' := by
  obtain ⟨inner, rest, reads, less, deep, room, ends⟩ := contents
  rcases ends with ⟨_, nil, _⟩ | ⟨⟨text2, rfl⟩, onward⟩
  · cases nil
  rcases loop_converts onward with ⟨nil, _⟩ | ⟨v2, text3, converts, after⟩
  · cases nil
  have outer : v2 = v.wrote (UInt8.ofNat inner.bytes.length :: inner.bytes) ∧ text3 = text2 ∧
      Room v.ba v.bpos 1 := by
    obtain ⟨start, braceTab, entry, first, same, e⟩ := converts.closes mode
    obtain ⟨rfl, rfl⟩ := List.cons.inj entry
    rw [Conversion.room_wrote] at first
    exact ⟨e.trans Conversion.wrote_length.symm, same, first⟩
  obtain ⟨rfl, rfl, first⟩ := outer
  rw [List.length_cons] at less
  obtain ⟨spec, rest, reads', less', deep', room', ends⟩ :=
    @follows text3 (v.wrote _) (Nat.lt_of_succ_le less) mode rfl after
  rw [Conversion.room_wrote] at room'
  refine ⟨.brace inner spec, rest, .brace reads reads', ?_, ?_, ?_, ?_⟩
  · rw [List.length_cons, List.length_cons]
    omega
  · show _ + max _ _ ≤ _
    change v.braceTab.length + 1 + _ ≤ _ at deep
    change v.braceTab.length + _ ≤ _ at deep'
    omega
  · rw [Spec.length_brace, room_add, room_add]
    refine ⟨first, room, ?_⟩
    rw [Nat.add_assoc, Nat.add_comm 1]
    exact room'
  · rw [Conversion.wrote_wrote] at ends
    exact ends

/-- What is accepted is read by the grammar, up to the end or to a bracket that is closed. -/
lemma reads_of_loop {n} (length : text.length ≤ n) (mode : v.asciiMode = false)
    (few : v.braceTab.length ≤ MAX_BRACE_CNT)
    (h : s2baLoop unicodeDigit s text 0 v = .ok v') (closed : v'.braceTab = []) :
    ReadUpTo unicodeDigit s text v v' := by
  -- on the length of the text: what follows a bracket is read after its contents
  induction n generalizing text v with
  | zero =>
    obtain rfl := List.eq_nil_of_length_eq_zero (Nat.le_zero.1 length)
    cases h
    exact .nil few closed
  | succ n ih =>
    rcases loop_converts h with ⟨rfl, rfl⟩ | ⟨v1, text1, converts, next⟩
    · exact .nil few closed
    cases converts with
    | colon =>
      obtain ⟨spec, rest, reads, shorter, others⟩ :=
        ih (Nat.le_of_succ_le_succ length) mode few next
      exact ⟨spec, rest, .colon reads, Nat.le_succ_of_le shorter, others⟩
    | space _ more =>
      rename_i k
      have shorter : text1.length ≤ n := by
        rw [List.length_cons, List.length_append] at length
        omega
      obtain ⟨spec, rest, reads, less, others⟩ := ih shorter mode few next
      refine ⟨spec, rest, .space ?_ (reads.spaces more.1), ?_, others⟩
      · exact List.append_ne_nil_of_right_ne_nil _ more.1
      · rw [List.length_cons, List.length_append]
        omega
    | opened _ fewer =>
      rw [List.length_cons, List.length_cons] at length
      refine .brace mode (ih (by omega) mode fewer next) fun less mode' same after => ?_
      exact ih (by omega) mode' (same ▸ few) after
    | closed _ entry room =>
      exact ⟨.nil, _, .nil, Nat.le_refl _, few, .inl rfl, .inr ⟨⟨_, rfl⟩, h⟩⟩
    | bar =>
      obtain ⟨quoted, inside, room, ends⟩ := chars_of_loop (by rw [mode]; rfl) next
      change Room v.ba v.bpos _ at room
      rcases ends with ⟨rfl, rfl⟩ | ⟨text2, rfl, after⟩
      · have bars : ({ v with asciiMode := !v.asciiMode } : Conversion) = v.inMode true := by
          rw [mode]
          rfl
        rw [bars]
        exact .lastChars inside room few closed
      · rw [List.length_cons, List.length_append, List.length_cons] at length
        exact .chars mode inside room (ih (by omega) rfl few after)
    | char mode' => cases mode.symm.trans mode'
    | number _ hex room =>
      have shorter := hex.shorter
      exact .number hex room (ih (by omega) mode few next)

end

section
variable {unicodeDigit : Char → Option Nat} {s : JString} {ba ba' bytes : List BYTE}
  {off n : Nat} {spec : Spec}

/-- `s2ba` accepts the texts of the notation, where there is room for the bytes. -/
lemma s2ba_iff : s2ba unicodeDigit s ba off = .ok (n, ba') ↔
    ∃ spec, Reads unicodeDigit s spec [] ∧ spec.nesting ≤ MAX_BRACE_CNT ∧
      Room ba off spec.bytes.length ∧ n = spec.bytes.length ∧ ba' = writeAt ba off spec.bytes := by
  unfold s2ba
  constructor
  · intro h
    split at h
    · cases h
    next v' loop =>
      split at h
      · cases h
      next closed =>
        cases h
        rw [not_not] at closed
        obtain ⟨spec, rest, reads, _, few, room, ends⟩ :=
          reads_of_loop (Nat.le_refl _) rfl (Nat.zero_le _) loop closed
        rcases ends with ⟨rfl, _, mode, rfl⟩ | ⟨⟨rest, rfl⟩, after⟩
        · refine ⟨spec, reads, ?_, room, Nat.add_sub_cancel_left .., rfl⟩
          rwa [List.length_nil, Nat.zero_add] at few
        · -- no bracket is open that could be closed
          rcases loop_converts after with ⟨nil, _⟩ | ⟨v2, text, converts, _⟩
          · cases nil
          obtain ⟨_, _, entry, _⟩ := converts.closes rfl
          cases entry
  · rintro ⟨spec, reads, few, room, rfl, rfl⟩
    obtain ⟨mode, _, loop⟩ := @Reads.loop unicodeDigit s s [] ⟨ba, [], false, off⟩ spec reads rfl
      (by rw [List.length_nil, Nat.zero_add]; exact few) room
    rw [loop]
    show (if ([] : List Nat) ≠ [] then _ else _) = _
    rw [if_neg (not_not_intro rfl)]
    show Except.ok (off + spec.bytes.length - off, _) = _
    rw [Nat.add_sub_cancel_left]
    rfl

/-- A byte takes at least one character. -/
lemma Reads.length {text spec rest} (h : Reads unicodeDigit text spec rest) :
    spec.bytes.length + rest.length ≤ text.length := by
  induction h with
  | nil => exact Nat.le_of_eq (Nat.zero_add _)
  | colon _ ih => exact Nat.le_succ_of_le ih
  | space _ _ ih => exact Nat.le_succ_of_le ih
  | hex hex _ ih =>
    have shorter := hex.shorter
    show _ + 1 + _ ≤ _
    omega
  | chars _ _ ih =>
    rw [Spec.bytes_chars, List.length_append, charBytes, List.length_map, List.cons_append,
      List.length_cons, List.length_append, List.length_cons]
    omega
  | lastChars =>
    rw [Spec.bytes_chars, List.length_append, charBytes, List.length_map]
    exact Nat.le_succ _
  | brace _ _ ih ih' =>
    rw [Spec.length_brace, List.length_cons, List.length_cons]
    rw [List.length_cons] at ih
    omega

/-- The array of `s2ba(s)` is large enough for the bytes of a text of the notation. -/
lemma Reads.array (h : Reads unicodeDigit s spec []) (few : spec.nesting ≤ MAX_BRACE_CNT) :
    s2baArray unicodeDigit s = .ok spec.bytes := by
  have length := h.length
  rw [List.length_nil] at length
  have room : 0 + spec.bytes.length ≤ (List.replicate (s.length * 2) (0 : BYTE)).length := by
    rw [List.length_replicate]
    omega
  unfold s2baArray
  rw [s2ba_iff.2 ⟨spec, h, few, .inr room, rfl, rfl⟩]
  dsimp only
  rw [writeAt_eq room, List.take_zero, List.nil_append, List.take_left' rfl]

/-- What is accepted is a text of the notation. -/
lemma reads_of_array (h : s2baArray unicodeDigit s = .ok bytes) :
    ∃ spec, Reads unicodeDigit s spec [] ∧ spec.nesting ≤ MAX_BRACE_CNT ∧ bytes = spec.bytes := by
  have converted := h
  unfold s2baArray at converted
  split at converted
  · cases converted
  next len ba e =>
    obtain ⟨spec, reads, few, _⟩ := s2ba_iff.1 e
    rw [reads.array few] at h
    cases h
    exact ⟨spec, reads, few, rfl⟩

end

end TagEventor.Jpcsc
