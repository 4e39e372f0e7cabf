import ReceivingApp.Theorems.Records

namespace ReceivingApp

variable {py : PyStd} {data : Dict} {r : ReceivingRecord}

-- ### migrate

theorem migrate_eq_self (h : ∀ f ∈ optionalStrFields, (data.get? f).isSome) :
    migrate data = data := by
  suffices hs : ∀ fs : List String, (∀ f ∈ fs, (data.get? f).isSome) →
      fs.foldl (fun (data : Dict) f =>
        if (data.get? f).isNone then data ++ [(f, PyVal.str "")] else data) data = data
    from hs optionalStrFields h
  intro fs hfs
  induction fs
  case nil => rfl
  case cons f fs hi =>
    have hf : (data.get? f).isNone = false := by simpa using hfs f List.mem_cons_self
    rw [List.foldl_cons, hf, if_neg Bool.false_ne_true]
    exact hi fun f hf => hfs f (List.mem_cons_of_mem _ hf)

theorem isSome_get?_migrate {f : String} (h : f ∈ optionalStrFields) :
    ((migrate data).get? f).isSome := by
  rw [get?_migrate_eq, if_pos h]
  simp

theorem migrate_migrate : migrate (migrate data) = migrate data :=
  migrate_eq_self fun _ => isSome_get?_migrate

theorem get?_migrate_of_eq_some {key : String} {v : PyVal} (h : data.get? key = some v) :
    (migrate data).get? key = some v := by
  rw [get?_migrate_eq, h, Option.some_or]

-- ### Round trips

-- All fields of a record are written, so that there is nothing left to migrate.
theorem migrate_toDict : migrate (toDict r) = toDict r := by
  apply migrate_eq_self
  simp [optionalStrFields, toDict]

theorem holds_toDict : (toDict r).Holds r :=
  fun f _ => congrArg (Dict.get? · f) migrate_toDict

theorem runFromDict_eq_ok_iff : runFromDict py data = .ok r ↔ fromDict py data = .ok r := by
  rw [runFromDict_eq]
  constructor
  case mp =>
    intro h
    split at h
    case isTrue  => exact h
    case isFalse => cases h
  case mpr =>
    intro h
    have hf : formats (migrate data) := formats_of_validateRecord (validateRecord_of_fromDict h)
    rwa [formats_migrate.symm.trans hf, if_pos rfl]

theorem runValidateRecord_toDict (h : BlankOrIso py r.timestamp) :
    runValidateRecord py (toDict r) = .ok [] := by
  have hv := holds_toDict.validateRecord h
  rw [migrate_toDict] at hv
  exact runValidateRecord_eq_nil_iff.mpr hv

-- A record that was read is valid once it is written, and is read back as it was.
theorem fromDict_retraction (h : runFromDict py data = .ok r) :
    runValidateRecord py (toDict r) = .ok [] ∧ runFromDict py (toDict r) = .ok r ∧
      migrate (migrate data) = migrate data ∧
      ∀ key v, data.get? key = some v → (migrate data).get? key = some v := by
  have ht : BlankOrIso py r.timestamp := timestamp_of_fromDict (runFromDict_eq_ok_iff.mp h)
  refine ⟨runValidateRecord_toDict ht, ?_, migrate_migrate, fun _ _ => get?_migrate_of_eq_some⟩
  exact runFromDict_eq_ok_iff.mpr (holds_toDict.fromDict ht)

-- A dict of the first version with one field of the second one, which is null.
theorem fromDict_retraction_sample :
    ∃ r, runFromDict .ascii (sampleData "" 1 (.int 3) ++ [("tags", .none)]) = .ok r ∧
      runValidateRecord .ascii (toDict r) = .ok [] ∧ runFromDict .ascii (toDict r) = .ok r := by
  have hok : (runFromDict .ascii (sampleData "" 1 (.int 3) ++ [("tags", .none)])).isOk := by
    decide +kernel
  cases h : runFromDict .ascii (sampleData "" 1 (.int 3) ++ [("tags", .none)])
  case error => simp [h, Except.isOk, Except.toBool] at hok
  case ok r =>
    have ⟨hv, hr, _⟩ := fromDict_retraction h
    exact ⟨r, rfl, hv, hr⟩

end ReceivingApp
