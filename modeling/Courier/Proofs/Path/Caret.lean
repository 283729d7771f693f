import Courier.Proofs.Path.Outcome
import Courier.Proofs.Path.Viable

/-! Carets under the source of an error. Every error with a token marks some characters of its
source, or the place behind the last one, so that one caret stands under each character. -/

namespace Courier

namespace Path

theorem utf8ByteSize_ofList_cons (c : Char) (s : List Char) :
    (String.ofList (c :: s)).utf8ByteSize = c.utf8Size + (String.ofList s).utf8ByteSize := by
  rw [String.ofList_cons, String.utf8ByteSize_append, String.utf8ByteSize_singleton]

theorem charCount?_append (before after : List Char) :
    charCount? (String.ofList before).utf8ByteSize (before ++ after) = some before.length := by
  induction before with
  | nil => simp [charCount?]
  | cons c before ih =>
    obtain ⟨n, hn⟩ : ∃ n, c.utf8Size + (String.ofList before).utf8ByteSize = n + 1 :=
      ⟨_, (Nat.succ_pred_eq_of_pos (Nat.add_pos_left c.utf8Size_pos _)).symm⟩
    have hle : ¬ n + 1 < c.utf8Size := by omega
    have hrest : n + 1 - c.utf8Size = (String.ofList before).utf8ByteSize := by omega
    rw [utf8ByteSize_ofList_cons, hn, List.cons_append, charCount?, if_neg hle, hrest, ih]
    rfl

theorem charCount?_toList (before after : String) :
    charCount? before.utf8ByteSize (before ++ after).toList = some before.length := by
  have h := charCount?_append before.toList after.toList
  rwa [String.ofList_toList, ← String.toList_append, String.length_toList] at h

theorem utf8ByteSize_eq_foldl (s : String) :
    s.toList.foldl (fun n c => n + c.utf8Size) 0 = s.utf8ByteSize := by
  rw [foldl_utf8Size, String.ofList_toList, Nat.zero_add]

/-- Columns between two places are the characters there. -/
theorem width_between (before marked after : String) :
    width (before ++ marked ++ after).toList before.utf8ByteSize
      (before ++ marked).utf8ByteSize = marked.length := by
  have hlow : min before.utf8ByteSize (before ++ marked ++ after).utf8ByteSize =
      before.utf8ByteSize := by
    simp only [String.utf8ByteSize_append]
    omega
  have hhigh : min (before ++ marked).utf8ByteSize (before ++ marked ++ after).utf8ByteSize =
      (before ++ marked).utf8ByteSize := by
    simp only [String.utf8ByteSize_append]
    omega
  have hle : before.utf8ByteSize ≤ (before ++ marked).utf8ByteSize := by
    simp [String.utf8ByteSize_append]
  have hcount := charCount?_toList before (marked ++ after)
  rw [← String.append_assoc] at hcount
  simp only [width, utf8ByteSize_eq_foldl, hlow, hhigh, hcount, charCount?_toList, if_pos hle,
    String.length_append, Nat.max_eq_left hle, Nat.sub_self, Nat.add_zero,
    Nat.add_sub_cancel_left]

theorem width_start (before after : String) :
    width (before ++ after).toList 0 before.utf8ByteSize = before.length := by
  simpa using width_between "" before after

theorem width_behind (source : String) :
    width source.toList source.utf8ByteSize (source.utf8ByteSize + 1) = 1 := by
  have hcount : charCount? source.utf8ByteSize source.toList = some source.length := by
    simpa using charCount?_toList source ""
  simp [width, utf8ByteSize_eq_foldl, hcount]

/-- The token marks a part of the source between two places, or the place behind the source. -/
structure Marks (source : String) (t : Token) (before marked after : String) : Prop where
  source_eq : source = before ++ marked ++ after
  start : t.start = before.utf8ByteSize
  stop : marked ≠ "" ∧ t.stop = (before ++ marked).utf8ByteSize ∨
    marked = "" ∧ after = "" ∧ t.stop = before.utf8ByteSize + 1

namespace Marks

variable {source before marked after : String} {t : Token}

theorem of_covers {ts : List Token} {first last : Token}
    (h : Covers source ts before marked after) (hf : ts.head? = some first)
    (hl : ts.getLast? = some last) (hstart : t.start = first.start) (hstop : t.stop = last.stop) :
    Marks source t before marked after :=
  ⟨h.source_eq, hstart.trans (h.start first hf), .inl ⟨h.marked_ne, hstop.trans (h.stop last hl)⟩⟩

/-- The range of the token begins and ends between characters of the source, or is one byte behind
it. -/
theorem range (h : Marks source t before marked after) :
    (t.start < t.stop ∧ t.stop ≤ source.utf8ByteSize ∧
        String.Pos.Raw.IsValid source ⟨t.start⟩ ∧ String.Pos.Raw.IsValid source ⟨t.stop⟩) ∨
      (t.start = source.utf8ByteSize ∧ t.stop = source.utf8ByteSize + 1) := by
  obtain ⟨rfl, hstart, ⟨hne, hstop⟩ | ⟨rfl, rfl, hstop⟩⟩ := h
  · left
    have hpos : 0 < marked.utf8ByteSize :=
      Nat.pos_of_ne_zero fun hz => hne (String.utf8ByteSize_eq_zero_iff.1 hz)
    rw [hstart, hstop]
    refine ⟨?_, ?_, ?_, ?_⟩
    · rw [String.utf8ByteSize_append]
      omega
    · simp [String.utf8ByteSize_append]
    · exact String.Pos.Raw.isValid_iff_exists_append.2
        ⟨before, marked ++ after, String.append_assoc, rfl⟩
    · exact String.Pos.Raw.isValid_iff_exists_append.2 ⟨before ++ marked, after, rfl, rfl⟩
  · right
    simp [hstart, hstop]

theorem size_marked (h : Marks source t before marked after) :
    (before ++ marked).utf8ByteSize = min t.stop source.utf8ByteSize := by
  obtain ⟨rfl, hstart, ⟨hne, hstop⟩ | ⟨rfl, rfl, hstop⟩⟩ := h
  · rw [hstop]
    simp only [String.utf8ByteSize_append]
    omega
  · rw [hstop]
    simp

theorem charCount?_eq_some (h : Marks source t before marked after) :
    charCount? (min t.start source.utf8ByteSize) source.toList = some before.length ∧
      charCount? (min t.stop source.utf8ByteSize) source.toList =
        some (before ++ marked).length := by
  have hstart : min t.start source.utf8ByteSize = before.utf8ByteSize := by
    rw [h.start, h.source_eq]
    simp only [String.utf8ByteSize_append]
    omega
  rw [hstart, ← h.size_marked, h.source_eq]
  refine ⟨?_, charCount?_toList _ _⟩
  rw [String.append_assoc]
  exact charCount?_toList _ _

theorem carets_eq (h : Marks source t before marked after) :
    carets source.toList t = List.replicate before.length ' ' ++
      List.replicate (if marked = "" then 1 else marked.length) '^' := by
  obtain ⟨rfl, hstart, ⟨hne, hstop⟩ | ⟨rfl, rfl, hstop⟩⟩ := h
  · have hspaces := width_start before (marked ++ after)
    rw [← String.append_assoc] at hspaces
    have hpos : 0 < marked.length :=
      Nat.pos_of_ne_zero fun hz => hne (String.length_eq_zero_iff.1 hz)
    rw [carets, hstart, hstop, hspaces, width_between, if_neg hne, Nat.max_eq_left hpos]
  · have hspaces : width before.toList 0 before.utf8ByteSize = before.length := by
      simpa using width_start before ""
    simp only [String.append_empty, carets, hstart, hstop, hspaces, width_behind, if_true,
      Nat.max_self]

end Marks

section

variable {source : String} {segments : List Segment} {e : Error} {t : Token}

theorem marks_of_mem (h : t ∈ tokenize source) :
    ∃ before marked after, Marks source t before marked after := by
  obtain ⟨before, marked, after, hc⟩ := exists_covers_of_mem h
  exact ⟨before, marked, after, .of_covers hc rfl rfl rfl rfl⟩

/-- The token of a segment's range marks all that its tokens cover. -/
theorem marks_of_span {s : Segment} (h : parse source = .ok segments) (hs : s ∈ segments)
    (ht : Failure.span s = some t) : ∃ before marked after, Marks source t before marked after := by
  obtain ⟨front, back, rfl⟩ := List.append_of_mem hs
  have hrow : tokenize source =
      front.flatMap Segment.tokens ++ (s.tokens ++ back.flatMap Segment.tokens) := by
    rw [← flatMap_tokens_of_parse h, List.flatMap_append, List.flatMap_cons]
  unfold Failure.span at ht
  split at ht
  · next first last hf hl =>
    cases ht
    have hne : s.tokens ≠ [] := by
      intro hnil
      rw [hnil] at hf
      cases hf
    obtain ⟨before, marked, after, hc⟩ := exists_covers hrow hne
    exact ⟨before, marked, after, .of_covers hc hf hl rfl rfl⟩
  · cases ht

theorem marks_of_parse_error (h : parse source = .error e) (ht : e.token = some t) :
    e.source = source ∧ ∃ before marked after, Marks source t before marked after := by
  obtain ⟨u, hu, rfl⟩ := Except.mapError_eq_error.1 h
  obtain ⟨us, hus, -⟩ := parseTokens_stops (fun _ => sound_of_mem_tokenize) hu
  refine ⟨rfl, ?_⟩
  replace ht : offender (tokenize source) u.rest = some t := ht
  cases hr : u.rest with
  | cons v rest =>
    rw [hr, offender, Option.some.injEq] at ht
    exact marks_of_mem (by simp [hus, hr, ht])
  | nil =>
    obtain ⟨u, hu, hstart, hstop⟩ := token_of_nil hu hr
    obtain rfl := Option.some.inj (ht.symm.trans hu)
    exact ⟨source, "", "", by simp, hstart, .inr ⟨rfl, rfl, hstop⟩⟩

theorem token_explain {f : Failure} (h : (Failure.explain source segments f).token = some t) :
    ∃ s ∈ segments, Failure.span s = some t ∨ t ∈ s.tokens := by
  unfold Failure.explain at h
  split at h
  · obtain ⟨s, hs, ht⟩ := Option.bind_eq_some_iff.1 h
    exact ⟨s, List.mem_of_getElem? hs, .inl ht⟩
  · obtain ⟨s, hs, ht⟩ := Option.bind_eq_some_iff.1 h
    exact ⟨s, List.mem_of_getElem? hs, .inr (List.mem_of_getElem? ht)⟩
  · obtain ⟨s, hs, ht⟩ := Option.bind_eq_some_iff.1 h
    exact ⟨s, List.mem_of_getElem? hs, .inr (List.mem_of_getElem? ht)⟩

theorem marks_of_assign_error {doc value : Json} (h : assign doc source value = .error e)
    (ht : e.token = some t) :
    e.source = source ∧ ∃ before marked after, Marks source t before marked after := by
  rw [assign] at h
  cases hp : parse source with
  | error f =>
    simp only [hp] at h
    cases h
    exact marks_of_parse_error hp ht
  | ok segments =>
    simp only [hp] at h
    obtain ⟨f, -, rfl⟩ := Except.mapError_eq_error.1 h
    refine ⟨source_explain f, ?_⟩
    obtain ⟨s, hs, hspan | hmem⟩ := token_explain ht
    · exact marks_of_span hp hs hspan
    · refine marks_of_mem ?_
      rw [← flatMap_tokens_of_parse hp]
      exact List.mem_flatMap.2 ⟨s, hs, hmem⟩

theorem exists_assign_error {doc : Json} {pairs : List (String × Json)}
    (h : build doc pairs = .error e) :
    ∃ before, ∃ p ∈ pairs, assign before p.1 p.2 = .error e := by
  induction pairs generalizing doc with
  | nil => cases h
  | cons p pairs ih =>
    rw [build] at h
    cases ha : assign doc p.1 p.2 with
    | error f =>
      simp only [ha] at h
      cases h
      exact ⟨doc, p, by simp, ha⟩
    | ok after =>
      simp only [ha] at h
      obtain ⟨before, q, hq, he⟩ := ih h
      exact ⟨before, q, by simp [hq], he⟩

end

/-- The carets of an error stand under what its token marks. The range of the token begins and ends
between characters, so that columns are never counted in bytes: there is one space for each
character in front, and one caret for each character marked or for the place behind the source. -/
structure Aligned (e : Error) (t : Token) (before marked after : String) : Prop where
  range : (t.start < t.stop ∧ t.stop ≤ e.source.utf8ByteSize ∧
      String.Pos.Raw.IsValid e.source ⟨t.start⟩ ∧ String.Pos.Raw.IsValid e.source ⟨t.stop⟩) ∨
    (t.start = e.source.utf8ByteSize ∧ t.stop = e.source.utf8ByteSize + 1)
  source_eq : e.source = before ++ marked ++ after
  start : before.utf8ByteSize = t.start
  stop : (before ++ marked).utf8ByteSize = min t.stop e.source.utf8ByteSize
  whole_start : charCount? (min t.start e.source.utf8ByteSize) e.source.toList =
    some before.length
  whole_stop : charCount? (min t.stop e.source.utf8ByteSize) e.source.toList =
    some (before ++ marked).length
  render : e.diagnostic.render = e.problem.category.title ++ " Error: " ++ e.problem.message ++
    "\n" ++ e.source ++ "\n" ++ String.ofList (List.replicate before.length ' ' ++
      List.replicate (if marked = "" then 1 else marked.length) '^')

theorem Marks.aligned {e : Error} {t : Token} {before marked after : String}
    (h : Marks e.source t before marked after) (ht : e.token = some t) :
    Aligned e t before marked after where
  range := h.range
  source_eq := h.source_eq
  start := h.start.symm
  stop := h.size_marked
  whole_start := h.charCount?_eq_some.1
  whole_stop := h.charCount?_eq_some.2
  render := by
    have hd : e.diagnostic.token = some t := ht
    rw [Diagnostic.render, hd, ← h.carets_eq]
    rfl

/-- An error with a token is about one of the given paths, and its carets are aligned. -/
theorem assemble_error_aligned {pairs : List (String × Json)} {e : Error} {t : Token}
    (h : assemble pairs = .error e) (ht : e.token = some t) :
    (∃ value, (e.source, value) ∈ pairs) ∧
      ∃ before marked after, Aligned e t before marked after := by
  obtain ⟨doc, p, hp, ha⟩ := exists_assign_error (Except.map_eq_error.1 h)
  obtain ⟨hsource, before, marked, after, hm⟩ := marks_of_assign_error ha ht
  rw [← hsource] at hm
  exact ⟨⟨p.2, by rwa [hsource]⟩, before, marked, after, hm.aligned ht⟩

theorem assemble_error_aligned_multibyte :
    let pairs : List (String × Json) := [("é[ü]", .string "s"), ("é[ü][ñandú]", .null)]
    let t : Token := .range 6 15
    let e : Error := ⟨"é[ü][ñandú]", some t, .wrongType (.key "ñandú") "é[ü]" .string⟩
    assemble pairs = .error e ∧ (∃ value, (e.source, value) ∈ pairs) ∧
      ∃ before marked after, Aligned e t before marked after := by
  have h : assemble [("é[ü]", .string "s"), ("é[ü][ñandú]", .null)] =
      .error ⟨"é[ü][ñandú]", some (.range 6 15), .wrongType (.key "ñandú") "é[ü]" .string⟩ := by
    cbv
  exact ⟨h, assemble_error_aligned h rfl⟩

end Path

end Courier
