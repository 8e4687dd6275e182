import Mathlib.Data.List.Infix
import Flowchart.Encoding.Utf
import Flowchart.Text.Search

/-!
# Where a piece of text occurs

A text with a piece is cut where the piece first occurs (`cut?_eq_some_iff`), and a text that is not
cut does not hold it. Replacing a piece is fixed by the same two cases: a text without the piece is
left alone, and a text with the piece is written up to its first occurrence, then the replacement,
and goes on behind the occurrence.

In Utf-8 an Ascii character is a byte of its own, and no byte of any other character looks like one.
So a piece of Ascii characters stands in the bytes of a text only where it stands in the text
(`isPrefix_drop_bytes_iff`), and the first place of the one is the first place of the other: to cut
the bytes there is to cut between two characters (`isFirstByte_iff`).
-/

namespace Flowchart.Text

variable {piece replacement cs rest : List Char}

theorem afterPrefix?_eq_some_iff : afterPrefix? piece cs = some rest ↔ piece ++ rest = cs := by
  fun_induction afterPrefix? piece cs with
  | case1 cs => simp [eq_comm]
  | case2 => simp
  | case3 c piece cs ih => simpa using ih
  | case4 p piece c cs hne => simp [hne]

theorem afterPrefix?_eq_none_iff : afterPrefix? piece cs = none ↔ ¬ piece <+: cs := by
  simp [Option.eq_none_iff_forall_ne_some, afterPrefix?_eq_some_iff, List.IsPrefix]

/-- A piece does not begin inside itself if its last character occurs nowhere else in it. -/
theorem not_isPrefix_append {init : List Char} {d : Char} (hd : d ∉ init) (hne : cs ≠ [])
    (hcs : ¬ init ++ [d] <+: cs) : ¬ init ++ [d] <+: cs ++ ((init ++ [d]) ++ rest) := by
  intro hpiece
  have hshort : cs.length ≤ init.length := by
    by_contra hlong
    refine hcs (List.prefix_of_prefix_length_le hpiece (List.prefix_append _ _) ?_)
    rw [List.length_append, List.length_singleton]
    omega
  -- The last character of the piece would be in its copy behind `cs`, before the end.
  have hpos := List.length_pos_iff.mpr hne
  have hlast : (cs ++ (init ++ [d] ++ rest))[init.length]? = some d := by
    obtain ⟨more, hmore⟩ := hpiece
    rw [← hmore]
    simp
  rw [List.getElem?_append_right hshort, List.append_assoc,
    List.getElem?_append_left (by omega)] at hlast
  exact hd (List.mem_of_getElem? hlast)

/-- A text is cut in just one way at a piece: where it first occurs. -/
theorem cut?_eq_some_iff {before : List Char} : cut? piece cs = some (before, rest) ↔
    cs = before ++ (piece ++ rest) ∧ ∀ n < before.length, ¬ piece <+: cs.drop n := by
  induction cs generalizing before with
  | nil =>
      cases piece with
      | nil => simp +contextual [cut?, eq_comm]
      | cons p piece => simp [cut?]
  | cons c cs ih =>
      cases hhere : afterPrefix? piece (c :: cs) with
      | some here =>
          have hsplit := afterPrefix?_eq_some_iff.mp hhere
          rw [cut?, hhere]
          constructor
          · rintro ⟨rfl, rfl⟩
            exact ⟨hsplit.symm, by simp⟩
          · rintro ⟨hcut, hfirst⟩
            have hnil : before = [] := by
              by_contra hne
              exact hfirst 0 (List.length_pos_iff.mpr hne) ⟨here, hsplit⟩
            subst hnil
            rw [List.nil_append, ← hsplit] at hcut
            rw [List.append_cancel_left hcut]
      | none =>
          have hnot := afterPrefix?_eq_none_iff.mp hhere
          rw [cut?, hhere]
          simp only [Option.map_eq_some_iff, Prod.exists, Prod.mk.injEq]
          constructor
          · rintro ⟨before, after, hcut, rfl, rfl⟩
            obtain ⟨rfl, hfirst⟩ := ih.mp hcut
            refine ⟨rfl, fun n hn => ?_⟩
            cases n with
            | zero => exact hnot
            | succ n => exact hfirst n (Nat.lt_of_succ_lt_succ hn)
          · rintro ⟨hcut, hfirst⟩
            cases before with
            | nil => exact absurd ⟨rest, hcut.symm⟩ hnot
            | cons b before =>
                obtain ⟨rfl, rfl⟩ := List.cons.inj hcut
                have hlater : ∀ n < before.length, ¬ piece <+: (before ++ (piece ++ rest)).drop n :=
                  fun n hn => hfirst (n + 1) (Nat.succ_lt_succ hn)
                exact ⟨before, rest, ih.mpr ⟨rfl, hlater⟩, rfl, rfl⟩

/-- A text that is not cut at a piece does not hold it. -/
theorem cut?_eq_none_iff : cut? piece cs = none ↔ ¬ piece <:+: cs := by
  induction cs with
  | nil => cases piece <;> simp [cut?]
  | cons c cs ih =>
      rw [List.infix_cons_iff, not_or, ← ih, ← afterPrefix?_eq_none_iff, cut?]
      cases afterPrefix? piece (c :: cs) <;> simp

/-- A text is cut at the first occurrence of a piece whose last character occurs nowhere else in
it. -/
theorem cut?_append {init : List Char} {d : Char} (hd : d ∉ init) (hcs : ¬ init ++ [d] <:+: cs) :
    cut? (init ++ [d]) (cs ++ (init ++ [d] ++ rest)) = some (cs, rest) := by
  refine cut?_eq_some_iff.mpr ⟨rfl, fun n hn => ?_⟩
  rw [List.drop_append_of_le_length hn.le]
  refine not_isPrefix_append hd (List.drop_eq_nil_iff.not.mpr (by omega)) fun h => hcs ?_
  exact h.isInfix.trans (List.drop_suffix n cs).isInfix

/-- A text is cut at the first occurrence of a character. -/
theorem cut?_append_cons {d : Char} (hd : d ∉ cs) : cut? [d] (cs ++ d :: rest) = some (cs, rest) :=
  cut?_append List.not_mem_nil fun h => hd (h.subset (List.mem_singleton_self d))

/-- At a character a text is cut where the character first occurs. -/
theorem cut?_singleton_eq_some_iff {d : Char} {before : List Char} :
    cut? [d] cs = some (before, rest) ↔ d ∉ before ∧ cs = before ++ d :: rest := by
  constructor
  · intro h
    obtain ⟨rfl, hfirst⟩ := cut?_eq_some_iff.mp h
    refine ⟨fun hmem => ?_, rfl⟩
    obtain ⟨n, hn, hget⟩ := List.mem_iff_getElem.mp hmem
    refine hfirst n hn ?_
    rw [List.drop_append_of_le_length hn.le, List.drop_eq_getElem_cons hn, hget]
    exact List.prefix_append [d] _
  · rintro ⟨hd, rfl⟩
    exact cut?_append_cons hd

/-- A text that is not cut at a character does not hold it. -/
theorem cut?_singleton_eq_none_iff {d : Char} : cut? [d] cs = none ↔ d ∉ cs := by
  rw [cut?_eq_none_iff, List.singleton_infix_iff]

/-- At a doubled character a text is cut where the character first stands twice: not before, and
also not one place earlier, with the last character before it. -/
theorem cut?_pair_eq_some_iff {d : Char} {before : List Char} :
    cut? [d, d] cs = some (before, rest) ↔
      ¬ [d, d] <:+: before ++ [d] ∧ cs = before ++ d :: d :: rest := by
  rw [cut?_eq_some_iff, and_comm]
  refine and_congr_left fun heq => ?_
  obtain rfl : cs = (before ++ [d]) ++ d :: rest := by simpa using heq
  constructor
  · rintro hfirst ⟨init, more, hpair⟩
    have hshort : init.length < before.length := by
      have hlength := congrArg List.length hpair
      simp only [List.length_append, List.length_cons, List.length_nil] at hlength
      omega
    refine hfirst _ hshort ⟨more ++ d :: rest, ?_⟩
    rw [← hpair, List.append_assoc, List.append_assoc, List.drop_left, ← List.append_assoc]
  · intro hnot n hn hpair
    have hlength : n ≤ (before ++ [d]).length := by
      rw [List.length_append]
      omega
    rw [List.drop_append_of_le_length hlength] at hpair
    have hstarts : [d, d] <+: (before ++ [d]).drop n := by
      refine List.prefix_of_prefix_length_le hpair (List.prefix_append _ _) ?_
      rw [List.length_drop, List.length_append, List.length_cons, List.length_singleton]
      omega
    exact hnot (hstarts.isInfix.trans (List.drop_suffix n _).isInfix)

/-- A text is split at the first separator, and then at those that follow. -/
theorem splitList_append_cons {d : Char} (hd : d ∉ cs) :
    splitList (· == d) (cs ++ d :: rest) = cs :: splitList (· == d) rest := by
  induction cs with
  | nil => simp [splitList]
  | cons c cs ih =>
      obtain ⟨hne, hcs⟩ := not_or.mp (mt List.mem_cons.mpr hd)
      simp [splitList, Ne.symm hne, ih hcs]

/-- A text without separators is one piece. -/
theorem splitList_of_not_mem {d : Char} (hd : d ∉ cs) : splitList (· == d) cs = [cs] := by
  induction cs with
  | nil => rfl
  | cons c cs ih =>
      obtain ⟨hne, hcs⟩ := not_or.mp (mt List.mem_cons.mpr hd)
      simp [splitList, Ne.symm hne, ih hcs]

theorem replaceFrom_skip (n : Nat) (cs : List Char) :
    replaceFrom piece replacement n cs = replaceFrom piece replacement 0 (cs.drop n) := by
  induction n generalizing cs with
  | zero => rfl
  | succ n ih =>
      cases cs with
      | nil => rfl
      | cons c cs => rw [replaceFrom, ih, List.drop_succ_cons]

/-- A text in which the piece does not occur is left alone. -/
theorem replaceFrom_of_absent (habsent : ∀ n, ¬ piece <+: cs.drop n) :
    replaceFrom piece replacement 0 cs = cs := by
  induction cs with
  | nil => rfl
  | cons c cs ih =>
      have hhere : afterPrefix? piece (c :: cs) = none := afterPrefix?_eq_none_iff.mpr (habsent 0)
      rw [replaceFrom, hhere, ih fun n => habsent (n + 1)]

/-- A text is written up to the first occurrence of the piece, and goes on behind it. -/
theorem replaceFrom_of_first {n : Nat} (hpiece : piece ≠ [])
    (hbefore : ∀ i < n, ¬ piece <+: cs.drop i) (hhere : piece <+: cs.drop n) :
    replaceFrom piece replacement 0 cs =
      cs.take n ++ replacement ++ replaceFrom piece replacement 0 (cs.drop (n + piece.length)) := by
  induction n generalizing cs with
  | zero =>
      obtain ⟨rest, hrest⟩ := hhere
      cases cs with
      | nil => simp_all
      | cons c cs =>
          have hfound : afterPrefix? piece (c :: cs) = some rest :=
            afterPrefix?_eq_some_iff.mpr hrest
          obtain ⟨k, hk⟩ : ∃ k, piece.length = k + 1 :=
            Nat.exists_eq_add_one.mpr (List.length_pos_iff.mpr hpiece)
          simp [replaceFrom, hfound, replaceFrom_skip, hk]
  | succ n ih =>
      cases cs with
      | nil => simp_all
      | cons c cs =>
          have hnot : afterPrefix? piece (c :: cs) = none :=
            afterPrefix?_eq_none_iff.mpr (hbefore 0 (Nat.succ_pos n))
          rw [replaceFrom, hnot, ih (fun i hi => hbefore (i + 1) (by omega)) hhere,
            Nat.add_right_comm, List.drop_succ_cons]
          rfl

/-! ## Ascii characters in bytes -/

/-- The bytes of a list of characters. -/
def bytes (cs : List Char) : List Nat := cs.flatMap fun c => utf8Bytes c.toNat

/-- A piece of Ascii characters first stands in the bytes of a text at byte `i`. -/
structure IsFirstByte (piece cs : List Char) (i : Nat) : Prop where
  here : piece.map Char.toNat <+: (bytes cs).drop i
  first : ∀ j < i, ¬ piece.map Char.toNat <+: (bytes cs).drop j

variable {c : Char} {i : Nat}

theorem bytes_cons (c : Char) (cs : List Char) : bytes (c :: cs) = utf8Bytes c.toNat ++ bytes cs :=
  List.flatMap_cons

theorem bytes_append (cs ds : List Char) : bytes (cs ++ ds) = bytes cs ++ bytes ds :=
  List.flatMap_append

/-- An Ascii character is a byte of its own. -/
theorem utf8Bytes_of_lt {n : Nat} (h : n < 128) : utf8Bytes n = [n] := if_pos h

/-- No character is without bytes. -/
theorem length_utf8Bytes_pos (n : Nat) : 0 < (utf8Bytes n).length := by
  unfold utf8Bytes
  split_ifs <;> simp

/-- All other characters are bytes that no Ascii character is. -/
theorem le_of_mem_utf8Bytes {n byte : Nat} (h : 128 ≤ n) (hbyte : byte ∈ utf8Bytes n) :
    128 ≤ byte := by
  unfold utf8Bytes at hbyte
  rw [if_neg (by omega)] at hbyte
  split at hbyte
  · simp only [List.mem_cons, List.not_mem_nil, or_false] at hbyte
    omega
  · split at hbyte
    all_goals
      simp only [List.mem_cons, List.not_mem_nil, or_false] at hbyte
      omega

/-- No Ascii character begins inside the bytes of another character. -/
theorem not_isPrefix_drop_utf8Bytes {n : Nat} {rest : List Nat} (hc : 128 ≤ c.toNat)
    (hn : n < (utf8Bytes c.toNat).length) {byte : Nat} (hbyte : byte < 128) (more : List Nat) :
    ¬ byte :: more <+: (utf8Bytes c.toNat).drop n ++ rest := by
  intro h
  rw [List.drop_eq_getElem_cons hn, List.cons_append, List.cons_prefix_cons] at h
  have hlarge := le_of_mem_utf8Bytes hc (List.getElem_mem hn)
  omega

/-- Ascii characters that are the first bytes of a text are its first characters. -/
theorem isPrefix_of_isPrefix_bytes (hascii : ∀ c ∈ piece, c.toNat < 128)
    (h : piece.map Char.toNat <+: bytes cs) : piece <+: cs := by
  induction piece generalizing cs with
  | nil => exact List.nil_prefix
  | cons p piece ih =>
      obtain ⟨hp, hpiece⟩ := List.forall_mem_cons.mp hascii
      cases cs with
      | nil => simp [bytes] at h
      | cons c cs =>
          rw [bytes_cons, List.map_cons] at h
          by_cases hc : c.toNat < 128
          · rw [utf8Bytes_of_lt hc, List.singleton_append, List.cons_prefix_cons] at h
            obtain ⟨heq, hrest⟩ := h
            rw [Char.toNat_inj.mp heq, List.cons_prefix_cons]
            exact ⟨rfl, ih hpiece hrest⟩
          · have hpos := length_utf8Bytes_pos c.toNat
            exact absurd h (not_isPrefix_drop_utf8Bytes (Nat.not_lt.mp hc) hpos hp _)

/-- A piece of Ascii characters stands at a byte of a text exactly if it stands behind the
characters before that byte. -/
theorem isPrefix_drop_bytes_iff (hne : piece ≠ []) (hascii : ∀ c ∈ piece, c.toNat < 128) :
    piece.map Char.toNat <+: (bytes cs).drop i ↔
      ∃ before after, cs = before ++ (piece ++ after) ∧ (bytes before).length = i := by
  constructor
  · intro h
    -- The induction passes over the text character by character until the byte is reached.
    induction cs generalizing i with
    | nil => simp [bytes, hne] at h
    | cons c cs ih =>
        by_cases hi : i = 0
        · subst hi
          obtain ⟨after, hafter⟩ := isPrefix_of_isPrefix_bytes hascii h
          exact ⟨[], after, hafter.symm, rfl⟩
        · rw [bytes_cons] at h
          by_cases hwidth : i < (utf8Bytes c.toNat).length
          · have hc : 128 ≤ c.toNat := by
              by_contra hc
              rw [utf8Bytes_of_lt (Nat.not_le.mp hc), List.length_singleton] at hwidth
              omega
            obtain ⟨p, more, rfl⟩ := List.exists_cons_of_ne_nil hne
            rw [List.drop_append_of_le_length hwidth.le, List.map_cons] at h
            exact absurd h (not_isPrefix_drop_utf8Bytes hc hwidth
              (hascii p List.mem_cons_self) _)
          · have hle := Nat.not_lt.mp hwidth
            rw [List.drop_append, List.drop_of_length_le hle, List.nil_append] at h
            obtain ⟨before, after, rfl, hbefore⟩ := ih h
            refine ⟨c :: before, after, rfl, ?_⟩
            rw [bytes_cons, List.length_append, hbefore]
            omega
  · rintro ⟨before, after, rfl, rfl⟩
    have hpiece : bytes piece = piece.map Char.toNat := by
      rw [bytes, List.map_eq_flatMap]
      exact List.flatMap_congr fun c hc => utf8Bytes_of_lt (hascii c hc)
    rw [bytes_append, bytes_append, List.drop_left, hpiece]
    exact List.prefix_append _ _

/-- Fewer characters are fewer bytes. -/
theorem length_bytes_lt (before : List Char) {more : List Char} (hne : more ≠ []) :
    (bytes before).length < (bytes (before ++ more)).length := by
  obtain ⟨c, more, rfl⟩ := List.exists_cons_of_ne_nil hne
  rw [bytes_append, bytes_cons, List.length_append, List.length_append]
  have hpos := length_utf8Bytes_pos c.toNat
  omega

/-- A piece of Ascii characters first stands in the bytes of a text where the text is cut at it. -/
theorem isFirstByte_iff (hne : piece ≠ []) (hascii : ∀ c ∈ piece, c.toNat < 128) :
    IsFirstByte piece cs i ↔
      ∃ before after, cut? piece cs = some (before, after) ∧ (bytes before).length = i := by
  constructor
  · rintro ⟨hhere, hfirst⟩
    obtain ⟨before, after, rfl, rfl⟩ := (isPrefix_drop_bytes_iff hne hascii).mp hhere
    refine ⟨before, after, cut?_eq_some_iff.mpr ⟨rfl, fun n hn hstarts => ?_⟩, rfl⟩
    -- The piece cannot stand behind fewer characters, for these are fewer bytes.
    obtain ⟨more, hmore⟩ := hstarts
    have hsplit : before = before.take n ++ before.drop n := (List.take_append_drop n before).symm
    have hless := length_bytes_lt (before.take n)
      (List.drop_eq_nil_iff.not.mpr (Nat.not_le.mpr hn))
    rw [← hsplit] at hless
    refine hfirst _ hless ((isPrefix_drop_bytes_iff hne hascii).mpr ⟨before.take n, more, ?_, rfl⟩)
    rw [hmore, ← List.take_append_of_le_length hn.le, List.take_append_drop]
  · rintro ⟨before, after, hcut, rfl⟩
    obtain ⟨rfl, hfirst⟩ := cut?_eq_some_iff.mp hcut
    refine ⟨(isPrefix_drop_bytes_iff hne hascii).mpr ⟨before, after, rfl, rfl⟩, fun j hj h => ?_⟩
    obtain ⟨earlier, more, heq, rfl⟩ := (isPrefix_drop_bytes_iff hne hascii).mp h
    have hshorter : earlier.length < before.length := by
      by_contra hlong
      have hstarts : before <+: earlier := List.prefix_of_prefix_length_le
        (List.prefix_append before (piece ++ after)) (heq ▸ List.prefix_append _ _)
        (Nat.not_lt.mp hlong)
      obtain ⟨between, rfl⟩ := hstarts
      rw [bytes_append, List.length_append] at hj
      omega
    refine hfirst _ hshorter ⟨more, ?_⟩
    rw [heq, List.drop_left]

end Flowchart.Text
