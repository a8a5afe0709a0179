import Slipway.Plan.Pack
import Slipway.Proofs.Date
import Slipway.Proofs.Machine.Join
set_option autoImplicit false

namespace Slipway.PackPlan

variable {project other : Text} {d e : Date}

theorem fileNameFor_eq (project : Text) (d : Date) :
    fileNameFor project d = project ++ '-' :: d.stamp ++ ".tar.gz".toList := by
  rw [fileNameFor, List.append_assoc project]
  rfl

theorem eq_of_fileNameFor_eq (hl : d.stamp.length = e.stamp.length)
    (h : fileNameFor project d = fileNameFor other e) : project = other ∧ d = e := by
  rw [fileNameFor_eq, fileNameFor_eq, List.append_cancel_right_eq] at h
  obtain ⟨hproject, hstamp⟩ := List.append_inj' h (by simp [hl])
  exact ⟨hproject, Date.stamp_injective (List.cons.inj hstamp).2⟩

theorem eq_of_same_project (h : fileNameFor project d = fileNameFor project e) : d = e := by
  rw [fileNameFor_eq, fileNameFor_eq, List.append_cancel_right_eq, List.append_cancel_left_eq] at h
  exact Date.stamp_injective (List.cons.inj h).2

theorem utf8_fileNameFor_lt_iff (hd : d.HasPlainYear) (he : e.HasPlainYear) :
    utf8 (fileNameFor project d) < utf8 (fileNameFor project e) ↔ d < e := by
  have hname (d : Date) : utf8 (fileNameFor project d) =
      utf8 (project ++ ['-']) ++ (utf8 d.stamp ++ utf8 ".tar.gz".toList) := by
    simp [fileNameFor_eq]
  rw [hname, hname, append_lt_append_iff, hd.utf8_stamp_lt_iff he]

/-- The file name of an archive tells the date among all that its project can have.  Where the years need no sign, it is
the project, a dash, eight digits that read back as the date, and the ending; it tells the project, too, and the bytes of
such names of one project are in the order of their dates. -/
theorem fileName_identifies (project : Text) (d : Date) :
    (∀ e, fileNameFor project d = fileNameFor project e → d = e) ∧
    (d.HasPlainYear →
      (∃ digits, fileNameFor project d = project ++ '-' :: digits ++ ".tar.gz".toList ∧ digits.length = 8 ∧
        IsDigits digits ∧ Date.ofStamp? digits = some d) ∧
      ∀ e : Date, e.HasPlainYear →
        (utf8 (fileNameFor project d) < utf8 (fileNameFor project e) ↔ d < e) ∧
        ∀ other, fileNameFor project d = fileNameFor other e → project = other ∧ d = e) := by
  refine ⟨fun e => eq_of_same_project, fun hd => ⟨⟨d.stamp, ?_⟩, fun e he => ⟨?_, fun other => ?_⟩⟩⟩
  · exact ⟨fileNameFor_eq project d, hd.length_stamp, hd.isDigits_stamp, Date.ofStamp?_stamp d⟩
  · exact utf8_fileNameFor_lt_iff hd he
  · exact eq_of_fileNameFor_eq (hd.length_stamp.trans he.length_stamp.symm)

theorem fileName_identifies_leapDay :
    let leapDay : Date := ⟨2024, 2, 29, by decide, by decide, by decide, by decide, by decide, by decide⟩
    let next : Date := ⟨2024, 3, 1, by decide, by decide, by decide, by decide, by decide, by decide⟩
    leapDay.HasPlainYear ∧ next.HasPlainYear ∧
      utf8 (fileNameFor projectName leapDay) < utf8 (fileNameFor projectName next) := by
  intro leapDay next
  have hleap : leapDay.HasPlainYear := by decide
  have hnext : next.HasPlainYear := by decide
  have hlt : leapDay < next := Date.lt_iff.2 (by decide)
  exact ⟨hleap, hnext, (((fileName_identifies projectName leapDay).2 hleap).2 next hnext).1.2 hlt⟩

/-- With a sign in the year two projects can have one file name. -/
example : (Date.ofYmd? (-1) 1 1).map (fileNameFor "a".toList) = (Date.ofYmd? 1 1 1).map (fileNameFor "a-".toList) := by
  decide +kernel

theorem isName_fileNameFor (h : '/' ∉ project) (d : Date) : Path.IsName (utf8 (fileNameFor project d)) := by
  have hslash : Path.slash ∉ utf8 (fileNameFor project d) := by
    rw [ascii_mem_utf8_iff (by decide), fileNameFor_eq]
    change '/' ∉ _
    intro hmem
    simp only [List.mem_append, List.mem_cons] at hmem
    rcases hmem with (hp | hdash | hstamp) | htail
    · exact h hp
    · exact absurd hdash (by decide)
    · exact absurd (Date.mem_stamp hstamp) (by decide)
    · exact absurd htail (by decide)
  have hlast : (utf8 (fileNameFor project d)).getLast? = some 0x7A := by
    rw [fileNameFor_eq, utf8_append, List.getLast?_append]
    rfl
  refine ⟨?_, hslash, ?_, ?_⟩ <;>
  · intro h
    rw [h] at hlast
    cases hlast

end Slipway.PackPlan
