import ListingReview.Tally
import Mathlib.Algebra.Group.Nat.Defs
import Mathlib.Data.List.Nodup
import Mathlib.Logic.Function.Basic

/-! # Server: counting

A count holds a number for each status if its tally shows these numbers, as far as 64 bits go, and
its series has a counter for exactly the statuses whose number is not nought (`Count.Holds`). One
more decision moves the number of its status by one and no other (`Holds.record`). What monitoring
is shown has one line for each counter, and nothing else that could be taken for one
(`sampleLines_text`). -/

namespace ListingReview

/-! ### One more decision -/

/-- The tally and the series show these numbers. -/
structure Count.Holds (count : Count) (number : Status → Nat) : Prop where
  tally : ∀ status, count.tally.get status = .ofNat (number status)
  series : ∃ order : List Status, order.Nodup ∧ (∀ status, status ∈ order ↔ number status ≠ 0) ∧
    count.series = order.map fun status => (status, .ofNat (number status))

/-- Numbers after one more of a status. -/
def oneMore (number : Status → Nat) (status : Status) : Status → Nat :=
  Function.update number status (number status + 1)

theorem oneMore_self (number : Status → Nat) (status : Status) :
    oneMore number status status = number status + 1 := Function.update_self ..

theorem oneMore_of_ne (number : Status → Nat) {status other : Status} (h : other ≠ status) :
    oneMore number status other = number other := Function.update_of_ne h ..

theorem Tally.get_add (tally : Tally) (status other : Status) :
    (tally.add status).get other =
      if other = status then tally.get other + 1 else tally.get other := by
  rcases status with _ | _ | _ <;> rcases other with _ | _ | _ <;> rfl

theorem Series.add_of_notMem {status : Status} {number : Status → Nat} (hzero : number status = 0) :
    ∀ {order : List Status}, status ∉ order →
      Series.add status (order.map fun other => (other, .ofNat (number other))) =
        (order ++ [status]).map fun other => (other, .ofNat (oneMore number status other))
  | [], _ => by
    rw [List.map_nil, List.nil_append, List.map_singleton, oneMore_self, hzero]
    rfl
  | other :: order, h => by
    have hne : other ≠ status := fun he => h (he ▸ List.mem_cons_self)
    have ih := Series.add_of_notMem hzero fun hmem => h (List.mem_cons_of_mem other hmem)
    simp only [List.cons_append, List.map_cons, Series.add, if_neg hne, ih,
      oneMore_of_ne number hne]

theorem Series.add_of_mem {status : Status} (number : Status → Nat) :
    ∀ {order : List Status}, order.Nodup → status ∈ order →
      Series.add status (order.map fun other => (other, .ofNat (number other))) =
        order.map fun other => (other, .ofNat (oneMore number status other))
  | other :: order, hnodup, h => by
    obtain ⟨hnot, hnodup⟩ := List.nodup_cons.mp hnodup
    by_cases hne : other = status
    · subst hne
      have hrest : ∀ third ∈ order, oneMore number other third = number third := fun third hthird =>
        oneMore_of_ne number fun he => hnot (he ▸ hthird)
      have hmap : (order.map fun third => (third, UInt64.ofNat (oneMore number other third))) =
          order.map fun third => (third, UInt64.ofNat (number third)) :=
        List.map_congr_left fun third hthird => by rw [hrest third hthird]
      rw [List.map_cons, List.map_cons, hmap, oneMore_self, Series.add, if_pos rfl,
        UInt64.ofNat_add]
      rfl
    · have hmem := (List.mem_cons.mp h).resolve_left fun he => hne he.symm
      have ih := Series.add_of_mem number hnodup hmem
      simp only [List.map_cons, Series.add, if_neg hne, ih, oneMore_of_ne number hne]

/-- **One more decision** moves the number of its status and no other. -/
theorem Count.Holds.record {count : Count} {number : Status → Nat} (h : count.Holds number)
    (decision : Decision) :
    (Recorder.counting.record count decision).Holds (oneMore number decision.status) := by
  obtain ⟨order, hnodup, hmem, hseries⟩ := h.series
  refine ⟨fun status => ?_, ?_⟩
  · refine (Tally.get_add count.tally decision.status status).trans ?_
    split_ifs with hs
    · rw [hs, oneMore_self, h.tally, UInt64.ofNat_add]
      rfl
    · rw [oneMore_of_ne number hs, h.tally]
  · have hadd : (Recorder.counting.record count decision).series =
        Series.add decision.status count.series := rfl
    rw [hadd, hseries]
    by_cases hs : decision.status ∈ order
    · refine ⟨order, hnodup, fun status => ?_, Series.add_of_mem number hnodup hs⟩
      by_cases he : status = decision.status
      · rw [he, oneMore_self]
        exact ⟨fun _ => Nat.succ_ne_zero _, fun _ => hs⟩
      · rw [oneMore_of_ne number he, hmem]
    · have hzero : number decision.status = 0 := by_contra fun hne => hs ((hmem _).mpr hne)
      refine ⟨order ++ [decision.status], ?_, fun status => ?_, Series.add_of_notMem hzero hs⟩
      · exact List.nodup_append.mpr ⟨hnodup, List.nodup_singleton _, fun a ha b hb => by
          rw [List.mem_singleton] at hb
          exact fun he => hs (hb ▸ he ▸ ha)⟩
      · rw [List.mem_append, List.mem_singleton]
        by_cases he : status = decision.status
        · rw [he, oneMore_self]
          exact ⟨fun _ => Nat.succ_ne_zero _, fun _ => Or.inr rfl⟩
        · rw [oneMore_of_ne number he, ← hmem, or_iff_left he]

/-- Nothing has been counted at first. -/
theorem Count.holds_zero : Count.Holds {} fun _ => 0 :=
  ⟨fun status => by rcases status with _ | _ | _ <;> rfl, [], List.nodup_nil, by simp, rfl⟩

/-- The counters are those of the numbers that are not nought, in whatever order. -/
theorem Count.Holds.series_perm {count : Count} {number : Status → Nat} (h : count.Holds number) :
    count.series.Perm ((Status.all.filter fun status => number status ≠ 0).map fun status =>
      (status, .ofNat (number status))) := by
  obtain ⟨order, hnodup, hmem, hseries⟩ := h.series
  rw [hseries]
  refine List.Perm.map _ ?_
  refine (List.perm_ext_iff_of_nodup hnodup (List.Nodup.filter _ (by decide))).mpr fun status => ?_
  have hall : status ∈ Status.all := by rcases status with _ | _ | _ <;> decide
  rw [hmem, List.mem_filter, decide_eq_true_eq, and_iff_right hall]

/-- A tally adds up. -/
theorem Count.Holds.total {count : Count} {number : Status → Nat} (h : count.Holds number)
    (hlt : number .approved + number .flagged + number .rejected < 2 ^ 64) :
    count.tally.total.toNat = number .approved + number .flagged + number .rejected := by
  have ha : count.tally.approved = _ := h.tally .approved
  have hf : count.tally.flagged = _ := h.tally .flagged
  have hr : count.tally.rejected = _ := h.tally .rejected
  rw [Tally.total, ha, hf, hr, ← UInt64.ofNat_add, ← UInt64.ofNat_add, UInt64.toNat_ofNat',
    Nat.mod_eq_of_lt hlt]

/-! ### What monitoring is shown -/

/-- The lines of a text in which a counter is shown. -/
def sampleLines (text : String) : List (List Char) :=
  (text.toList.splitOn '\n').filter ("moderation_decisions_total".toList.isPrefixOf ·)

theorem sample_noBreak (entry : Status × UInt64) : '\n' ∉ (Series.sample entry).toList := by
  have hdigits : '\n' ∉ Text.decimal entry.2.toNat := fun h => by
    have := Nat.isDigit_of_mem_toDigits (by decide) (by decide) h
    exact absurd this (by decide)
  have hname : '\n' ∉ entry.1.name.toList := by
    rcases entry.1 with _ | _ | _ <;> decide
  rw [Series.sample]
  simp only [String.toList_append, List.mem_append, String.toList_ofList, hdigits, hname, or_false]
  decide

theorem splitOn_lines (rest : List Char) : ∀ {lines : List String},
    (∀ line ∈ lines, '\n' ∉ line.toList) →
      (lines.flatMap (fun line => (line ++ "\n").toList) ++ rest).splitOn '\n' =
        lines.map String.toList ++ rest.splitOn '\n'
  | [], _ => rfl
  | line :: lines, h => by
    have hline := h line List.mem_cons_self
    have ih := splitOn_lines rest fun other hother => h other (List.mem_cons_of_mem line hother)
    have hbreak : (line ++ "\n").toList = line.toList ++ ['\n'] := String.toList_append
    rw [List.flatMap_cons, hbreak, List.append_assoc, List.append_assoc, List.singleton_append,
      List.splitOn_append_cons_self_of_not_mem hline, ih]
    rfl

theorem isPrefixOf_sample (entry : Status × UInt64) :
    "moderation_decisions_total".toList.isPrefixOf (Series.sample entry).toList = true := by
  rw [List.isPrefixOf_iff_prefix, Series.sample, String.append_assoc, String.append_assoc,
    String.append_assoc, String.toList_append]
  exact List.prefix_append _ _

theorem lines_noBreak (entry : Status × UInt64) (rest : Series) :
    ∀ line ∈ Series.lines (entry :: rest), '\n' ∉ line.toList := by
  intro line hline
  rcases List.mem_cons.mp hline with rfl | hline
  · decide
  · obtain ⟨entry', -, rfl⟩ := List.mem_map.mp hline
    exact sample_noBreak entry'

theorem splitOn_text (entry : Status × UInt64) (rest : Series) :
    (Series.text (entry :: rest)).toList.splitOn '\n' =
      (Series.lines (entry :: rest)).map String.toList ++ [[], []] := by
  have htext : Series.text (entry :: rest) =
      String.join ((Series.lines (entry :: rest)).map fun line => line ++ "\n") ++ "\n" := rfl
  rw [htext, String.toList_append, String.toList_join, List.flatMap_map,
    splitOn_lines _ (lines_noBreak entry rest)]
  rfl

/-- **A series is shown** in one line for each of its counters. -/
theorem sampleLines_text (series : Series) :
    sampleLines series.text = series.map fun entry => (Series.sample entry).toList := by
  rcases series with _ | ⟨entry, rest⟩
  · decide
  · have hlines : Series.lines (entry :: rest) =
        ("# TYPE moderation_decisions_total counter") :: (entry :: rest).map Series.sample := rfl
    rw [sampleLines, splitOn_text, hlines, List.map_cons, List.map_map, List.cons_append,
      List.filter_cons_of_neg (by decide), List.filter_append, List.filter_eq_self.mpr]
    · exact List.append_nil _
    · intro line hline
      obtain ⟨entry', -, rfl⟩ := List.mem_map.mp hline
      exact isPrefixOf_sample entry'

end ListingReview
