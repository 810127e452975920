import Slipway.Proofs.Json.Fields
import Slipway.Resource.Reference

/-
  References and variables are read as they were written.
-/

namespace Slipway

open Json

@[simp] theorem ObjectReference.readsAs (r : ObjectReference) : ReadsAs read? r.toJson r where
  told := rfl
  read_eq := by simp [read?, toJson]

@[simp] theorem LocalReference.readsAs (r : LocalReference) : ReadsAs read? r.toJson r where
  told := rfl
  read_eq := by simp [read?, toJson]

@[simp] theorem PortReference.readsAs (r : PortReference) : ReadsAs read? r.toJson r where
  told := by cases r <;> rfl
  read_eq := by
    cases r with
    | number n => exact congrArg (Option.map number) (int32?_ofInt32 n)
    | name s => rfl

@[simp] theorem KeyReference.readsAs (r : KeyReference) : ReadsAs read? r.toJson r where
  told := rfl
  read_eq := by simp [read?, toJson]

@[simp] theorem FieldReference.readsAs (r : FieldReference) : ReadsAs read? r.toJson r where
  told := rfl
  read_eq := by simp [read?, toJson]

@[simp] theorem ResourceFieldReference.readsAs (r : ResourceFieldReference) :
    ReadsAs read? r.toJson r where
  told := rfl
  read_eq := by simp [read?, toJson]

@[simp] theorem VariableSource.readsAs (s : VariableSource) : ReadsAs read? s.toJson s where
  told := rfl
  read_eq := by simp [read?, toJson]

@[simp] theorem Variable.readsAs (v : Variable) : ReadsAs read? v.toJson v where
  told := rfl
  read_eq := by simp [read?, toJson]

end Slipway
