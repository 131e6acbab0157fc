import Mathlib.Data.List.Forall2
import SuitApi.ModelService
import SuitApi.Numerals

/-! # The agent's report of its GPUs

`collect_gpu_info` reads what `nvidia-smi -q -x` prints.  `ET.fromstring` is a parameter:
it takes a text to its root element, or refuses it as not well formed.
-/

namespace SuitApi

namespace GpuMonitor

/-- An element, with the text in front of its first child. -/
structure Element where
  tag : String
  text : Option String := none
  children : List Element := []

namespace Element

def findall (element : Element) (path : String) : List Element :=
  element.children.filter fun child => child.tag = path

def find (element : Element) (path : String) : Option Element :=
  element.children.find? fun child => child.tag = path

/-- The text of the first such child, empty where that has none. -/
def findtext (element : Element) (path : String) : Option String :=
  (element.find path).map fun child => child.text.getD ""

end Element

/-- The exceptions that reading a number raises. -/
inductive Raised where
  | valueError
  | indexError
  | overflowError
  deriving Repr, DecidableEq

/-- `int(x)`. -/
def intOfFloat : Binary64 → Except Raised Int
  | .finite q => .ok (if 0 ≤ q then ⌊q⌋ else ⌈q⌉)
  | .infinite _ => .error .overflowError
  | .nan => .error .valueError

/-- `int(float(token))`. -/
def intOfToken (token : List Char) : Except Raised Int :=
  match floatOfText token with
  | none => .error .valueError
  | some x => intOfFloat x

def parseInt (value : Option String) : Except Raised Int :=
  match truthyText value with
  | none => .ok 0
  | some text =>
      if text = "N/A" ∨ text = "[Not Supported]" then .ok 0
      else
        match firstWord (strip text.toList) with
        | none => .error .indexError
        | some token =>
            match intOfToken token with
            | .error .valueError => .ok 0
            | outcome => outcome

example : parseInt (some "24576 MiB") = .ok 24576 := by decide +kernel

structure ProcessInfo where
  pid : Int
  name : String
  memoryUsed : Int
  deriving Repr, DecidableEq

def orUnknown (text : Option String) : String := (truthyText text).getD "unknown"

def processInfo (proc : Element) : Except Raised ProcessInfo := do
  let pid ← parseInt (proc.findtext "pid")
  let memoryUsed ← parseInt (proc.findtext "used_memory")
  return { pid, name := orUnknown (proc.findtext "process_name"), memoryUsed }

def parseProcesses (gpuElement : Element) : Except Raised (List ProcessInfo) :=
  match gpuElement.find "processes" with
  | none => .ok []
  | some processes => (processes.findall "process_info").mapM processInfo

structure GpuInfo where
  index : Nat
  model : String
  uuid : Option String
  memoryTotal : Int
  memoryUsed : Int
  memoryFree : Int
  utilizationGpu : Int
  utilizationMemory : Int
  temperature : Int
  powerUsage : Int
  powerLimit : Int
  processes : List ProcessInfo
  deriving Repr, DecidableEq

/-- `part.findtext(path) if part is not None else None`. -/
def textIn (part : Option Element) (path : String) : Option String := part.bind (·.findtext path)

def gpuInfo (gpuElement : Element) (index : Nat) : Except Raised GpuInfo := do
  let fbMemory := gpuElement.find "fb_memory_usage"
  let utilization := gpuElement.find "utilization"
  let temperature := gpuElement.find "temperature"
  let power := gpuElement.find "power_readings"
  return {
    index
    model := orUnknown (gpuElement.findtext "product_name")
    uuid := gpuElement.findtext "uuid"
    memoryTotal := ← parseInt (textIn fbMemory "total")
    memoryUsed := ← parseInt (textIn fbMemory "used")
    memoryFree := ← parseInt (textIn fbMemory "free")
    utilizationGpu := ← parseInt (textIn utilization "gpu_util")
    utilizationMemory := ← parseInt (textIn utilization "memory_util")
    temperature := ← parseInt (textIn temperature "gpu_temp")
    powerUsage := ← parseInt (textIn power "power_draw")
    powerLimit := ← parseInt (textIn power "current_power_limit")
    processes := ← parseProcesses gpuElement }

/-- `completed` is what the program printed, or `none` where it is missing, fails or takes
    too long. -/
def collectGpuInfo (fromstring : String → Option Element) (completed : Option String) :
    Except Raised (List GpuInfo) :=
  match completed with
  | none => .ok []
  | some stdout =>
      match fromstring stdout with
      | none => .ok []
      | some root => (root.findall "gpu").zipIdx.mapM fun (gpuElement, index) => gpuInfo gpuElement index

/-! ## Computations that may raise -/

section

variable {ε α β : Type}

theorem bind_eq_ok {x : Except ε α} {f : α → Except ε β} {b : β} :
    (x >>= f) = .ok b ↔ ∃ a, x = .ok a ∧ f a = .ok b := by
  cases x with
  | error e => simp [bind, Except.bind]
  | ok a =>
      constructor
      · intro done
        exact ⟨a, rfl, done⟩
      · rintro ⟨_, ⟨⟩, done⟩
        exact done

/-- A traversal gets through exactly when it does at each member. -/
theorem mapM_eq_ok {f : α → Except ε β} {l : List α} {out : List β} :
    l.mapM f = .ok out ↔ List.Forall₂ (fun a b => f a = .ok b) l out := by
  induction l generalizing out with
  | nil =>
      rw [List.mapM_nil, List.forall₂_nil_left_iff]
      exact ⟨fun done => (Except.ok.inj done).symm, fun done => congrArg Except.ok done.symm⟩
  | cons a rest ih =>
      simp only [List.mapM_cons, bind_eq_ok, List.forall₂_cons_left_iff, ih]
      constructor
      · rintro ⟨b, first, later, others, ⟨⟩⟩
        exact ⟨b, later, first, others, rfl⟩
      · rintro ⟨b, later, first, others, rfl⟩
        exact ⟨b, first, later, others, rfl⟩

theorem exists_forall₂ {R : α → β → Prop} {l : List α} :
    (∃ out, List.Forall₂ R l out) ↔ ∀ a ∈ l, ∃ b, R a b := by
  induction l with
  | nil => exact iff_of_true ⟨[], .nil⟩ (List.forall_mem_nil _)
  | cons a rest ih =>
      rw [List.forall_mem_cons, ← ih]
      constructor
      · rintro ⟨_, all⟩
        cases all with
        | cons first others => exact ⟨⟨_, first⟩, _, others⟩
      · rintro ⟨⟨b, first⟩, out, others⟩
        exact ⟨b :: out, .cons first others⟩

theorem forall₂_and {R S : α → β → Prop} {l : List α} {out : List β} :
    List.Forall₂ R l out ∧ List.Forall₂ S l out ↔ List.Forall₂ (fun a b => R a b ∧ S a b) l out := by
  constructor
  · rintro ⟨one, other⟩
    induction one with
    | nil => exact .nil
    | cons first _ ih =>
        cases other with
        | cons second others => exact .cons ⟨first, second⟩ (ih others)
  · intro both
    exact ⟨both.imp fun _ _ => And.left, both.imp fun _ _ => And.right⟩

end

/-! ## The texts that raise -/

/-- The text is missing, empty, or has a first word that is no infinity. -/
def Readable (value : Option String) : Prop :=
  ∀ text, truthyText value = some text → ∃ token, firstWord (strip text.toList) = some token ∧ ¬ Endless token

theorem intOfToken_overflow_iff {token : List Char} :
    intOfToken token = .error .overflowError ↔ Endless token := by
  rw [← floatOfText_infinite_iff, intOfToken]
  cases floatOfText token with
  | none => simp
  | some x => cases x <;> simp [intOfFloat]

theorem intOfToken_ne_indexError (token : List Char) : intOfToken token ≠ .error .indexError := by
  rw [intOfToken]
  cases floatOfText token with
  | none => simp
  | some x => cases x <;> simp [intOfFloat]

/-- The two texts that are taken for zero at once are no numbers. -/
theorem marker_readable {text : String} (marker : text = "N/A" ∨ text = "[Not Supported]") :
    ∃ token, firstWord (strip text.toList) = some token ∧ ¬ Endless token := by
  have word : ∀ token, intOfToken token = .error .valueError → ¬ Endless token := by
    intro token wrong endless
    rw [intOfToken_overflow_iff.mpr endless] at wrong
    cases wrong
  rcases marker with rfl | rfl
  · exact ⟨"N/A".toList, by decide +kernel, word _ (by decide +kernel)⟩
  · exact ⟨"[Not".toList, by decide +kernel, word _ (by decide +kernel)⟩

theorem parseInt_ok_iff {value : Option String} : (∃ n, parseInt value = .ok n) ↔ Readable value := by
  unfold parseInt Readable
  cases truthyText value with
  | none => simp
  | some text =>
      simp only [Option.some.injEq, forall_eq']
      split
      · rename_i marker
        exact iff_of_true ⟨0, rfl⟩ (marker_readable marker)
      · cases firstWord (strip text.toList) with
        | none => simp
        | some token =>
            simp only [Option.some.injEq, exists_eq_left', ← intOfToken_overflow_iff]
            have index := intOfToken_ne_indexError token
            cases read : intOfToken token with
            | ok n => simp
            | error raised => cases raised <;> simp_all

/-! ## What a report holds -/

/-- The elements that are to give a process entry. -/
def processInfos (gpuElement : Element) : List Element :=
  (gpuElement.findall "processes").flatMap (·.findall "process_info")

/-- The process elements that the code reads. -/
def processesRead (gpuElement : Element) : List Element :=
  ((gpuElement.find "processes").map (·.findall "process_info")).getD []

/-- The texts that the code reads as numbers. -/
def numericTexts (gpuElement : Element) : List (Option String) :=
  [textIn (gpuElement.find "fb_memory_usage") "total", textIn (gpuElement.find "fb_memory_usage") "used",
    textIn (gpuElement.find "fb_memory_usage") "free", textIn (gpuElement.find "utilization") "gpu_util",
    textIn (gpuElement.find "utilization") "memory_util", textIn (gpuElement.find "temperature") "gpu_temp",
    textIn (gpuElement.find "power_readings") "power_draw",
    textIn (gpuElement.find "power_readings") "current_power_limit"] ++
  (processesRead gpuElement).flatMap fun proc => [proc.findtext "pid", proc.findtext "used_memory"]

/-- The entry of a GPU: its place, its texts, and one process entry for each element. -/
structure Describes (gpuElement : Element) (index : Nat) (entry : GpuInfo) : Prop where
  index : entry.index = index
  model : entry.model = orUnknown (gpuElement.findtext "product_name")
  uuid : entry.uuid = gpuElement.findtext "uuid"
  processes : List.Forall₂
    (fun proc (shown : ProcessInfo) => shown.name = orUnknown (proc.findtext "process_name"))
    (processInfos gpuElement) entry.processes

/-- The call returns, with an entry for each GPU of a report that is well formed. -/
def Survives (fromstring : String → Option Element) (completed : Option String) : Prop :=
  ∃ gpus, collectGpuInfo fromstring completed = .ok gpus ∧
    match completed.bind fromstring with
    | none => gpus = []
    | some root =>
        List.Forall₂ (fun (place : Element × Nat) entry => Describes place.1 place.2 entry)
          (root.findall "gpu").zipIdx gpus

theorem processInfo_ok_iff {proc : Element} :
    (∃ shown, processInfo proc = .ok shown) ↔
      Readable (proc.findtext "pid") ∧ Readable (proc.findtext "used_memory") := by
  simp only [processInfo, bind_eq_ok, ← parseInt_ok_iff]
  constructor
  · rintro ⟨_, pid, readPid, used, readUsed, _⟩
    exact ⟨⟨pid, readPid⟩, used, readUsed⟩
  · rintro ⟨⟨pid, readPid⟩, used, readUsed⟩
    exact ⟨_, pid, readPid, used, readUsed, rfl⟩

theorem processInfo_name {proc : Element} {shown : ProcessInfo} (done : processInfo proc = .ok shown) :
    shown.name = orUnknown (proc.findtext "process_name") := by
  simp only [processInfo, bind_eq_ok] at done
  obtain ⟨_, _, _, _, ⟨⟩⟩ := done
  rfl

theorem parseProcesses_eq (gpuElement : Element) :
    parseProcesses gpuElement = (processesRead gpuElement).mapM processInfo := by
  unfold parseProcesses processesRead
  cases gpuElement.find "processes" <;> rfl

theorem parseProcesses_ok_iff {gpuElement : Element} :
    (∃ shown, parseProcesses gpuElement = .ok shown) ↔
      ∀ text ∈ (processesRead gpuElement).flatMap fun proc => [proc.findtext "pid", proc.findtext "used_memory"],
        Readable text := by
  simp only [parseProcesses_eq, mapM_eq_ok, exists_forall₂, processInfo_ok_iff, List.mem_flatMap,
    List.mem_cons, List.not_mem_nil, or_false]
  constructor
  · rintro all text ⟨proc, inside, rfl | rfl⟩
    · exact (all proc inside).1
    · exact (all proc inside).2
  · intro all proc inside
    exact ⟨all _ ⟨proc, inside, .inl rfl⟩, all _ ⟨proc, inside, .inr rfl⟩⟩

theorem gpuInfo_ok_iff {gpuElement : Element} {index : Nat} :
    (∃ entry, gpuInfo gpuElement index = .ok entry) ↔ ∀ text ∈ numericTexts gpuElement, Readable text := by
  rw [numericTexts, List.forall_mem_append, ← parseProcesses_ok_iff]
  simp only [gpuInfo, bind_eq_ok, List.forall_mem_cons, ← parseInt_ok_iff]
  constructor
  · rintro ⟨_, n₁, h₁, n₂, h₂, n₃, h₃, n₄, h₄, n₅, h₅, n₆, h₆, n₇, h₇, n₈, h₈, shown, done, _⟩
    exact ⟨⟨⟨n₁, h₁⟩, ⟨n₂, h₂⟩, ⟨n₃, h₃⟩, ⟨n₄, h₄⟩, ⟨n₅, h₅⟩, ⟨n₆, h₆⟩, ⟨n₇, h₇⟩, ⟨n₈, h₈⟩,
      List.forall_mem_nil _⟩, shown, done⟩
  · rintro ⟨⟨⟨n₁, h₁⟩, ⟨n₂, h₂⟩, ⟨n₃, h₃⟩, ⟨n₄, h₄⟩, ⟨n₅, h₅⟩, ⟨n₆, h₆⟩, ⟨n₇, h₇⟩, ⟨n₈, h₈⟩, _⟩, shown, done⟩
    exact ⟨_, n₁, h₁, n₂, h₂, n₃, h₃, n₄, h₄, n₅, h₅, n₆, h₆, n₇, h₇, n₈, h₈, shown, done, rfl⟩

/-- What the entry holds beside the numbers. -/
theorem gpuInfo_fields {gpuElement : Element} {index : Nat} {entry : GpuInfo}
    (done : gpuInfo gpuElement index = .ok entry) :
    entry.index = index ∧ entry.model = orUnknown (gpuElement.findtext "product_name") ∧
      entry.uuid = gpuElement.findtext "uuid" ∧ parseProcesses gpuElement = .ok entry.processes := by
  simp only [gpuInfo, bind_eq_ok] at done
  obtain ⟨_, _, _, _, _, _, _, _, _, _, _, _, _, _, _, _, _, processes, ⟨⟩⟩ := done
  exact ⟨rfl, rfl, rfl, processes⟩

/-- The process elements behind the first `processes` element. -/
def processesLeft (gpuElement : Element) : List Element :=
  (gpuElement.findall "processes").tail.flatMap (·.findall "process_info")

theorem processInfos_eq (gpuElement : Element) :
    processInfos gpuElement = processesRead gpuElement ++ processesLeft gpuElement := by
  have first : gpuElement.find "processes" = (gpuElement.findall "processes").head? :=
    List.head?_filter.symm
  rw [processInfos, processesRead, processesLeft, first]
  cases gpuElement.findall "processes" <;> rfl

/-- A successful entry describes its GPU unless process elements are left over. -/
theorem describes_iff {gpuElement : Element} {index : Nat} {entry : GpuInfo}
    (done : gpuInfo gpuElement index = .ok entry) :
    Describes gpuElement index entry ↔ processesLeft gpuElement = [] := by
  obtain ⟨place, model, uuid, processes⟩ := gpuInfo_fields done
  rw [parseProcesses_eq, mapM_eq_ok] at processes
  constructor
  · intro describes
    have count := describes.processes.length_eq
    rw [processInfos_eq, List.length_append, processes.length_eq] at count
    exact List.eq_nil_of_length_eq_zero (by omega)
  · intro whole
    refine ⟨place, model, uuid, ?_⟩
    rw [processInfos_eq, whole, List.append_nil]
    exact processes.imp fun _ _ => processInfo_name

/-- The collection survives a report, with all its entries, if and only if each GPU of a
    well formed one has only readable numbers and its processes in one element. -/
theorem survives_iff (fromstring : String → Option Element) (completed : Option String) :
    Survives fromstring completed ↔
      ∀ root, completed.bind fromstring = some root → ∀ gpuElement ∈ root.findall "gpu",
        (∀ text ∈ numericTexts gpuElement, Readable text) ∧ processesLeft gpuElement = [] := by
  have parsed : collectGpuInfo fromstring completed =
      match completed.bind fromstring with
      | none => .ok []
      | some root => (root.findall "gpu").zipIdx.mapM fun place => gpuInfo place.1 place.2 := by
    cases completed with
    | none => rfl
    | some stdout => rfl
  rw [Survives, parsed]
  cases completed.bind fromstring with
  | none => exact iff_of_true ⟨[], rfl, rfl⟩ fun _ found => nomatch found
  | some root =>
      have each : ∀ place : Element × Nat,
          (∃ entry, gpuInfo place.1 place.2 = .ok entry ∧ Describes place.1 place.2 entry) ↔
            (∀ text ∈ numericTexts place.1, Readable text) ∧ processesLeft place.1 = [] := by
        intro place
        rw [← gpuInfo_ok_iff]
        constructor
        · rintro ⟨entry, done, describes⟩
          exact ⟨⟨entry, done⟩, (describes_iff done).mp describes⟩
        · rintro ⟨⟨entry, done⟩, whole⟩
          exact ⟨entry, done, (describes_iff done).mpr whole⟩
      simp only [mapM_eq_ok, forall₂_and, exists_forall₂, each, Option.some.injEq, forall_eq']
      constructor
      · intro all gpuElement inside
        rw [← List.zipIdx_map_fst 0 (root.findall "gpu")] at inside
        obtain ⟨place, listed, rfl⟩ := List.mem_map.mp inside
        exact all place listed
      · intro all place inside
        exact all place.1 (List.fst_mem_of_mem_zipIdx inside)

namespace Sample

/-- A report whose temperature is white space. -/
def blank : String :=
  "<nvidia_smi_log><gpu><temperature><gpu_temp> </gpu_temp></temperature></gpu></nvidia_smi_log>"

def tree (temperature : String) : Element :=
  { tag := "nvidia_smi_log"
    children := [{ tag := "gpu"
                   children := [{ tag := "temperature"
                                  children := [{ tag := "gpu_temp", text := some temperature }] }] }] }

def fromstring (text : String) : Option Element := if text = blank then some (tree " ") else none

/-- The report is lost to an `IndexError`. -/
theorem blank_raises : ¬ ∀ (fromstring : String → Option Element) (completed : Option String),
    Survives fromstring completed := by
  intro always
  obtain ⟨gpus, done, _⟩ := always fromstring (some blank)
  have raised : collectGpuInfo fromstring (some blank) = .error .indexError := by decide +kernel
  rw [raised] at done
  cases done

end Sample

end GpuMonitor

end SuitApi
