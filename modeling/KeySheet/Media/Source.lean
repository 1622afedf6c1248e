import KeySheet.Media.Kind

/-! What is to be converted, and on which processor. -/
namespace KeySheet.Media

/-- The processor that the converter should run on. -/
inductive Device where
  | cuda
  | cpu
  deriving DecidableEq, Repr, Inhabited

namespace Device

def toggled : Device → Device
  | cuda => cpu
  | cpu => cuda

def name : Device → String
  | cuda => "cuda"
  | cpu => "cpu"

/-- The device of a name in any ASCII case; `gpu` is another name of `cuda`. -/
def ofName? (s : String) : Option Device :=
  match String.ofList (Text.foldCase s.toList) with
  | "cuda" | "gpu" => some cuda
  | "cpu" => some cpu
  | _ => none

theorem toggled_toggled (d : Device) : d.toggled.toggled = d := by cases d <;> rfl

end Device

structure Source where
  url : String
  device : Device
  deriving DecidableEq, Repr

/-- The source of a text as typed, without the white space around it; `none` for a blank one. -/
def Source.ofInput? (url : String) (device : Device) : Option Source :=
  match Text.trim url.toList with
  | [] => none
  | cs => some ⟨String.ofList cs, device⟩

end KeySheet.Media
