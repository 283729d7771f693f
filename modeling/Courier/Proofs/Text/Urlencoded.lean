import Courier.Proofs.Text.Utf8
import Courier.Proofs.Text.Visible

/-! Pairs in one line, read back. What a name or a value is encoded to has no separator in it, and
percent signs only where two digits follow; so a line is cut where its pairs were joined, also if it
was appended to a line from elsewhere. -/

namespace Courier

namespace Percent

theorem decodeBytes_cons_of_ne {b : UInt8} (h : b ≠ 37) (rest : Bytes) :
    decodeBytes (b :: rest) = b :: decodeBytes rest := by
  rw [decodeBytes]
  rintro a b rest rfl
  exact absurd rfl h

theorem hexUpper_toNat {n : Nat} (h : n < 16) :
    (hexUpper n).toNat < 0x80 ∧ hexValue? (UInt8.ofNat (hexUpper n).toNat) = some n := by
  revert n
  decide

theorem decodeBytes_byte (b : UInt8) (rest : Bytes) :
    decodeBytes (Utf8.encode (byte b) ++ rest) = b :: decodeBytes rest := by
  have hb : b.toNat < 256 := b.toNat_lt
  obtain ⟨hm, hmv⟩ := hexUpper_toNat (n := b.toNat / 16) (by omega)
  obtain ⟨hn, hnv⟩ := hexUpper_toNat (n := b.toNat % 16) (by omega)
  have hval : UInt8.ofNat (16 * (b.toNat / 16) + b.toNat % 16) = b := by
    rw [Nat.div_add_mod]
    exact UInt8.ofNat_toNat
  rw [byte, Utf8.encode_cons_of_ascii (by decide), Utf8.encode_cons_of_ascii hm,
    Utf8.encode_cons_of_ascii hn]
  simp [decodeBytes, hmv, hnv, hval]

theorem decodeBytes_flatMap_byte (bs rest : Bytes) :
    decodeBytes (Utf8.encode (bs.flatMap byte) ++ rest) = bs ++ decodeBytes rest := by
  induction bs with
  | nil => rfl
  | cons b bs ih =>
    rw [List.flatMap_cons, Utf8.encode_append, List.append_assoc, decodeBytes_byte, ih,
      List.cons_append]

end Percent

namespace Urlencoded

theorem isUnreserved_ascii {c : Char} (h : isUnreserved c = true) : c.toNat < 0x80 := by
  simp only [isUnreserved, Bool.or_eq_true, decide_eq_true_eq] at h
  rcases h with (((h | rfl) | rfl) | rfl) | rfl
  · exact (isVisible_of_isAlphanum h).ascii
  all_goals decide

def encodeChar (c : Char) : List Char :=
  if isUnreserved c then [c] else if c = ' ' then ['+'] else Percent.encodeChar c

theorem encodeText_cons (c : Char) (s : List Char) :
    encodeText (c :: s) = encodeChar c ++ encodeText s := rfl

theorem mem_encodeText {s : List Char} {d : Char} (h : d ∈ encodeText s) :
    isUnreserved d = true ∨ d = '+' ∨ d = '%' := by
  obtain ⟨c, -, hd⟩ := List.mem_flatMap.1 h
  split at hd
  · next hc =>
    obtain rfl := List.mem_singleton.1 hd
    exact .inl hc
  split at hd
  · exact .inr (.inl (List.mem_singleton.1 hd))
  · rcases Percent.mem_encodeChar hd with hd | hd
    · exact .inr (.inr hd)
    · exact .inl (by simp [isUnreserved, hd])

/-- A plus sign stands for a blank. -/
def spaced (s : List Char) : List Char := s.map fun c => if c = '+' then ' ' else c

theorem spaced_append (s t : List Char) : spaced (s ++ t) = spaced s ++ spaced t :=
  List.map_append

theorem spaced_of_notMem {s : List Char} (h : '+' ∉ s) : spaced s = s := by
  induction s with
  | nil => rfl
  | cons c s ih =>
    rw [List.mem_cons, not_or] at h
    have hc : spaced (c :: s) = (if c = '+' then ' ' else c) :: spaced s := rfl
    rw [hc, if_neg (Ne.symm h.1), ih h.2]

theorem decodeBytes_encodeChar (c : Char) (rest : Bytes) :
    Percent.decodeBytes (Utf8.encode (spaced (encodeChar c)) ++ rest) =
      Utf8.encode [c] ++ Percent.decodeBytes rest := by
  rw [encodeChar]
  split
  · next hc =>
    have ha := isUnreserved_ascii hc
    have hp : '+' ∉ [c] := by
      intro hp
      obtain rfl := List.mem_singleton.1 hp
      cases hc
    have hs : UInt8.ofNat c.toNat ≠ 37 := by
      intro hs
      have hn : c.toNat % 256 = 37 := congrArg UInt8.toNat hs
      rw [Nat.mod_eq_of_lt (by omega)] at hn
      obtain rfl : c = '%' := by
        rw [← Char.ofNat_toNat c, hn]
      cases hc
    rw [spaced_of_notMem hp, Utf8.encode_cons_of_ascii ha]
    exact Percent.decodeBytes_cons_of_ne hs rest
  split
  · next hc =>
    subst hc
    exact Percent.decodeBytes_cons_of_ne (by decide) rest
  · have hp : '+' ∉ Percent.encodeChar c := by
      intro hp
      rcases Percent.mem_encodeChar hp with hp | hp <;> cases hp
    rw [spaced_of_notMem hp, Percent.encodeChar, Percent.decodeBytes_flatMap_byte]

theorem decodeBytes_encodeText (s : List Char) :
    Percent.decodeBytes (Utf8.encode (spaced (encodeText s))) = Utf8.encode s := by
  induction s with
  | nil => rfl
  | cons c s ih =>
    rw [encodeText_cons, spaced_append, Utf8.encode_append, decodeBytes_encodeChar, ih,
      ← Utf8.encode_append]
    rfl

theorem decodeText_encodeText (s : List Char) : decodeText (encodeText s) = String.ofList s := by
  rw [decodeText, Percent.decode, ← spaced, decodeBytes_encodeText, Utf8.decodeLossy_encode]

theorem notMem_encodeText {c : Char} (h : isUnreserved c = false) (hp : c ≠ '+') (hs : c ≠ '%')
    (s : List Char) : c ∉ encodeText s := by
  intro hc
  rcases mem_encodeText hc with hu | he | he
  · rw [h] at hu
    cases hu
  · exact hp he
  · exact hs he

theorem decode_append_cons (line more : List Char) :
    decode (line ++ '&' :: more) = decode line ++ decode more := by
  simp [decode, splitOn_append_cons]

theorem decode_encodePair (p : String × String) : decode (encodePair p) = [p] := by
  have hamp : ∀ s : List Char, '&' ∉ encodeText s :=
    notMem_encodeText (by decide) (by decide) (by decide)
  have heq : ∀ c ∈ encodeText p.1.toList, (c != '=') = true := by
    rintro c hc
    have hne : c ≠ '=' := by
      rintro rfl
      exact notMem_encodeText (by decide) (by decide) (by decide) _ hc
    simpa using hne
  have hmem : '&' ∉ encodePair p := by simp [encodePair, hamp]
  have htake : (encodePair p).takeWhile (· != '=') = encodeText p.1.toList := by
    rw [encodePair, List.takeWhile_append_of_pos heq]
    simp
  have hdrop : (encodePair p).dropWhile (· != '=') = '=' :: encodeText p.2.toList := by
    rw [encodePair, List.dropWhile_append_of_pos heq]
    simp
  have hne : (encodePair p).isEmpty = false := by simp [encodePair]
  simp [decode, splitOn_of_notMem hmem, hne, htake, hdrop, decodeText_encodeText]

theorem encode_cons_cons (p q : String × String) (pairs : List (String × String)) :
    encode (p :: q :: pairs) = encodePair p ++ '&' :: encode (q :: pairs) := by
  simp [encode, List.intercalate]

theorem decode_encode (pairs : List (String × String)) : decode (encode pairs) = pairs := by
  induction pairs with
  | nil => rfl
  | cons p pairs ih =>
    cases pairs with
    | nil =>
      have he : encode [p] = encodePair p := by simp [encode]
      rw [he, decode_encodePair]
    | cons q pairs =>
      rw [encode_cons_cons, decode_append_cons, decode_encodePair, ih]
      rfl

theorem decode_append (line : List Char) (pairs : List (String × String)) :
    decode (append line pairs) = decode line ++ pairs := by
  rw [append]
  split
  · next hl =>
    rw [List.isEmpty_iff.1 hl, decode_encode]
    rfl
  · clear * -
    induction pairs generalizing line with
    | nil => simp
    | cons p pairs ih =>
      rw [List.foldl_cons, ih, decode_append_cons, decode_encodePair, List.append_assoc]
      rfl

theorem allVisible_encodeText (s : List Char) : AllVisible (encodeText s) := by
  intro c hc
  rcases mem_encodeText hc with hu | rfl | rfl
  · simp only [isUnreserved, Bool.or_eq_true, decide_eq_true_eq] at hu
    rcases hu with (((hu | rfl) | rfl) | rfl) | rfl
    · exact isVisible_of_isAlphanum hu
    all_goals decide
  · decide
  · decide

theorem allVisible_encodePair (p : String × String) : AllVisible (encodePair p) :=
  allVisible_append.2 ⟨allVisible_encodeText _,
    allVisible_cons.2 ⟨by decide, allVisible_encodeText _⟩⟩

theorem allVisible_append_pairs {line : List Char} (h : AllVisible line)
    (pairs : List (String × String)) : AllVisible (append line pairs) := by
  rw [append]
  split
  · refine allVisible_intercalate (by decide) fun p hp => ?_
    obtain ⟨pair, -, rfl⟩ := List.mem_map.1 hp
    exact allVisible_encodePair pair
  · clear * - h
    induction pairs generalizing line with
    | nil => exact h
    | cons p pairs ih =>
      apply ih
      exact allVisible_append.2 ⟨h, allVisible_cons.2 ⟨by decide, allVisible_encodePair p⟩⟩

end Urlencoded

end Courier
