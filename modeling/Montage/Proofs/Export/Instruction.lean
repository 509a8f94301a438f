import Mathlib.Data.List.Basic
import Montage.Export.Soundtrack
import Montage.Proofs.Export.LastCall
import Montage.Proofs.Graph.Scene

/-! Arguments of ffmpeg, read back as it reads them: options with their values, and the output in
the end. What a call is for, and which files it reads and writes, stands in them. -/

namespace Montage

structure Instruction where
  options : List (String × String)
  output : String
  deriving DecidableEq

namespace Instruction

def standsAlone (option : String) : Bool :=
  ["-an", "-vn", "-y"].contains option

def behind (options : List (String × String)) (instruction : Instruction) : Instruction :=
  { instruction with options := options ++ instruction.options }

def read : List String → Option Instruction
  | [] => none
  | [output] => some ⟨[], output⟩
  | option :: value :: rest =>
      if standsAlone option then (read (value :: rest)).map (behind [(option, "")])
      else (read rest).map (behind [(option, value)])

def inputsIn (format : Option String) : List (String × String) → List (Option String × String)
  | [] => []
  | (option, value) :: rest =>
      if option = "-i" then (format, value) :: inputsIn none rest
      else inputsIn (if option = "-f" then some value else format) rest

def inputs (instruction : Instruction) : List (Option String × String) :=
  inputsIn none instruction.options

/-- The inputs that are files. Others are described in full where they are named. -/
def files (instruction : Instruction) : List String :=
  (instruction.inputs.filter (·.1 ≠ some "lavfi")).map Prod.snd

def values (instruction : Instruction) (option : String) : List String :=
  (instruction.options.filter (·.1 = option)).map Prod.snd

example : (read ["-f", "lavfi", "-i", "color", "-i", "a.mp4", "-an", "-c:v", "-i", "-y",
    "out.mp4"]).map (fun instruction =>
      (instruction.files, instruction.values "-c:v", instruction.output)) =
      some (["a.mp4"], ["-i"], "out.mp4") := by decide +kernel

end Instruction

inductive Purpose where
  | cut (stream : Stream)
  | join
  | compose
  deriving DecidableEq

structure Task where
  purpose : Purpose
  files : List String
  output : String
  deriving DecidableEq

def Instruction.purpose? (instruction : Instruction) : Option Purpose :=
  if instruction.values "-filter_complex" ≠ [] then some .compose
  else if instruction.inputs.any (·.1 = some "concat") then some .join
  else if instruction.values "-an" ≠ [] then some (.cut .video)
  else if instruction.values "-vn" ≠ [] then some (.cut .audio)
  else none

def Task.read (arguments : List String) : Option Task :=
  (Instruction.read arguments).bind fun instruction =>
    instruction.purpose?.map (⟨·, instruction.files, instruction.output⟩)

def filesOf (arguments : List String) : List Path :=
  (Task.read arguments).elim [] fun task => task.files.map .ofText

theorem filesOf_of_read {arguments : List String} {task : Task}
    (read : Task.read arguments = some task) : filesOf arguments = task.files.map .ofText := by
  rw [filesOf, read]
  rfl

/-! ## Reading options back -/

namespace Instruction

def words (options : List (String × String)) : List String :=
  options.flatMap fun (option, value) => if standsAlone option then [option] else [option, value]

def AreTidy (options : List (String × String)) : Prop :=
  ∀ option ∈ options, standsAlone option.1 = true → option.2 = ""

variable {options rest : List (String × String)}

theorem AreTidy.append (early : AreTidy options) (late : AreTidy rest) :
    AreTidy (options ++ rest) :=
  List.forall_mem_append.mpr ⟨early, late⟩

theorem words_append (options rest : List (String × String)) :
    words (options ++ rest) = words options ++ words rest :=
  List.flatMap_append

theorem read_words (tidy : AreTidy options) (output : String) :
    read (words options ++ [output]) = some ⟨options, output⟩ := by
  induction options with
  | nil => rfl
  | cons first others induction =>
      rcases first with ⟨option, value⟩
      have read_others := induction fun option member => tidy option (List.mem_cons_of_mem _ member)
      rw [words, List.flatMap_cons, List.append_assoc]
      change read (_ ++ (words others ++ [output])) = _
      dsimp only
      split
      · rename_i alone
        obtain rfl : value = "" := tidy (option, value) List.mem_cons_self alone
        -- Something comes behind the option, be it the output alone.
        rcases List.exists_cons_of_ne_nil (List.append_ne_nil_of_right_ne_nil (words others)
          (List.cons_ne_nil output [])) with ⟨next, later, more⟩
        rw [more] at read_others ⊢
        rw [List.singleton_append, read, if_pos alone, read_others]
        rfl
      · rename_i valued
        rw [List.cons_append, List.singleton_append, read, if_neg valued, read_others]
        rfl

theorem inputsIn_of_no_input {format : Option String}
    (none : ∀ option ∈ options, option.1 ≠ "-i" ∧ option.1 ≠ "-f") :
    inputsIn format options = [] := by
  induction options with
  | nil => rfl
  | cons first rest induction =>
      have here := none first List.mem_cons_self
      rw [inputsIn, if_neg here.1, if_neg here.2]
      exact induction fun option member => none option (List.mem_cons_of_mem _ member)

theorem values_append (options rest : List (String × String)) (output name : String) :
    values ⟨options ++ rest, output⟩ name = values ⟨options, output⟩ name ++
      values ⟨rest, output⟩ name := by
  simp [values]

end Instruction

open Instruction

theorem Task.read_words {options : List (String × String)} (tidy : AreTidy options)
    (output : String) : Task.read (words options ++ [output]) =
      (purpose? ⟨options, output⟩).map (⟨·, Instruction.files ⟨options, output⟩, output⟩) := by
  rw [Task.read, Instruction.read_words tidy]
  rfl

/-! ## Calls for one clip and for the sound -/

theorem read_joinArguments (list output : Path) :
    Task.read (joinArguments list output) = some ⟨.join, [list.text], output.text⟩ := by
  let options := [("-f", "concat"), ("-safe", "0"), ("-i", list.text), ("-c", "copy"), ("-y", "")]
  have tidy : AreTidy options := by simp [AreTidy, options, standsAlone]
  have given : joinArguments list output = words options ++ [output.text] := rfl
  rw [given, Task.read_words tidy]
  simp [options, purpose?, values, Instruction.files, inputs, inputsIn]

def codecOptions (codec : String) : List (String × String) :=
  [("-c:v", codec), (if codec = gpuCodec then "-cq" else "-crf", "20"), ("-pix_fmt", "yuv420p")]

theorem codecArguments_eq (codec : String) : codecArguments codec = words (codecOptions codec) := by
  unfold codecArguments codecOptions
  split <;> rfl

theorem areTidy_codecOptions (codec : String) : AreTidy (codecOptions codec) := by
  unfold codecOptions
  split <;> simp [AreTidy, standsAlone]

def Stream.options (settings : Settings) : Stream → List (String × String)
  | .video => ("-an", "") ::
      if settings.streamCopy then [("-c:v", "copy")] else codecOptions settings.codec
  | .audio => [("-vn", ""), ("-c:a", if settings.streamCopy then "copy" else settings.audioCodec)]

theorem Stream.arguments_eq (settings : Settings) (stream : Stream) :
    stream.arguments settings = words (stream.options settings) := by
  cases stream with
  | video =>
      simp only [arguments, options]
      split
      · rfl
      · rw [codecArguments_eq]
        rfl
  | audio => rfl

theorem Stream.areTidy_options (settings : Settings) (stream : Stream) :
    AreTidy (stream.options settings) := by
  cases stream with
  | video =>
      simp only [options]
      split
      · simp [AreTidy, standsAlone]
      · have mute : AreTidy [("-an", "")] := by simp [AreTidy]
        exact mute.append (areTidy_codecOptions settings.codec)
  | audio => simp [AreTidy, options, standsAlone]

variable {τ : Type} [Quantity τ]

/-- An extraction reads its source alone. -/
theorem read_trimArguments (source : String) (part : SourcePart τ) (output : String)
    (settings : Settings) (stream : Stream) :
    Task.read (trimArguments source part output (stream.arguments settings)) =
      some ⟨.cut stream, [source], output⟩ := by
  let front := [("-ss", Quantity.thousandths part.start), ("-i", source),
    ("-t", Quantity.thousandths part.duration)]
  let options := front ++ stream.options settings ++ [("-y", "")]
  have tidy : AreTidy options := by
    refine (AreTidy.append ?_ (stream.areTidy_options settings)).append ?_
    · simp [AreTidy, front, standsAlone]
    · simp [AreTidy]
  have given : trimArguments source part output (stream.arguments settings) =
      words options ++ [output] := by
    simp only [trimArguments, stream.arguments_eq, options, words_append, List.append_assoc]
    rfl
  rw [given, Task.read_words tidy]
  cases stream with
  | video =>
      simp only [options, Stream.options, codecOptions]
      split
      · simp [front, purpose?, values, Instruction.files, inputs, inputsIn]
      · split <;> simp [front, purpose?, values, Instruction.files, inputs, inputsIn]
  | audio =>
      simp [options, front, Stream.options, purpose?, values, Instruction.files, inputs, inputsIn]

/-! ## The last call -/

namespace Input

def format? (input : Input) : Option String :=
  match input.options with
  | ["-f", format] => some format
  | _ => none

def IsPlain (input : Input) : Prop :=
  input.options = input.format?.toList.flatMap fun format => ["-f", format]

def switches (input : Input) : List (String × String) :=
  input.format?.toList.map (("-f", ·)) ++ [("-i", input.path)]

variable {input : Input} {inputs : List Input}

theorem IsPlain.arguments_eq (plain : input.IsPlain) : input.arguments = words input.switches := by
  rw [arguments, plain, switches]
  cases input.format? <;> rfl

theorem flatMap_arguments_eq (plain : ∀ input ∈ inputs, input.IsPlain) :
    inputs.flatMap arguments = words (inputs.flatMap switches) := by
  rw [words, List.flatMap_assoc]
  exact List.flatMap_congr fun input member => (plain input member).arguments_eq

theorem inputsIn_switches (input : Input) (rest : List (String × String)) :
    inputsIn none (input.switches ++ rest) = (input.format?, input.path) :: inputsIn none rest := by
  unfold switches
  cases input.format? <;> simp [inputsIn]

theorem inputsIn_flatMap_switches (inputs : List Input) (rest : List (String × String)) :
    inputsIn none (inputs.flatMap switches ++ rest) =
      inputs.map (fun input => (input.format?, input.path)) ++ inputsIn none rest := by
  induction inputs with
  | nil => rfl
  | cons input more induction =>
      rw [List.flatMap_cons, List.append_assoc, inputsIn_switches, induction]
      rfl

theorem option_of_mem_switches {option : String × String} (member : option ∈ input.switches) :
    option.1 = "-f" ∨ option.1 = "-i" := by
  unfold switches at member
  rcases List.mem_append.mp member with member | member
  · rcases List.mem_map.mp member with ⟨format, _, rfl⟩
    exact .inl rfl
  · rw [List.mem_singleton.mp member]
    exact .inr rfl

theorem areTidy_flatMap_switches (inputs : List Input) : AreTidy (inputs.flatMap switches) := by
  intro option member alone
  rcases List.mem_flatMap.mp member with ⟨input, _, switch⟩
  rcases option_of_mem_switches switch with given | given
  · rw [given] at alone
    exact absurd alone (by decide)
  · rw [given] at alone
    exact absurd alone (by decide)

theorem values_flatMap_switches (inputs : List Input) (output : String) {name : String}
    (other : name ≠ "-f" ∧ name ≠ "-i") :
    values ⟨inputs.flatMap switches, output⟩ name = [] := by
  simp only [values, List.map_eq_nil_iff, List.filter_eq_nil_iff, List.mem_flatMap]
  rintro option ⟨input, _, switch⟩ same
  rcases option_of_mem_switches switch with given | given
  · exact other.1 ((of_decide_eq_true same).symm.trans given)
  · exact other.2 ((of_decide_eq_true same).symm.trans given)

end Input

def optionsBehind (plan : Plan τ) (text : String) (settings : Settings) : List (String × String) :=
  [("-filter_complex", text), ("-map", "[" ++ plan.videoLabel ++ "]"),
    ("-map", integerText plan.audioIndex ++ ":a")] ++ codecOptions settings.codec ++
  [("-c:a", settings.audioCodec), ("-r", settings.fps.plain),
    ("-t", Quantity.thousandths plan.duration), ("-y", "")]

theorem behindInputs_eq (plan : Plan τ) (text output : String) (settings : Settings) :
    behindInputs plan text output settings =
      words (optionsBehind plan text settings) ++ [output] := by
  simp only [behindInputs, optionsBehind, words_append, codecArguments_eq, List.append_assoc]
  rfl

theorem areTidy_optionsBehind (plan : Plan τ) (text : String) (settings : Settings) :
    AreTidy (optionsBehind plan text settings) := by
  refine (AreTidy.append ?_ (areTidy_codecOptions settings.codec)).append ?_
  · simp [AreTidy, standsAlone]
  · simp [AreTidy, standsAlone]

theorem inputsIn_optionsBehind (plan : Plan τ) (text : String) (settings : Settings) :
    inputsIn none (optionsBehind plan text settings) = [] := by
  apply inputsIn_of_no_input
  unfold optionsBehind codecOptions
  split <;> simp

variable {plan : Plan τ} {text output : String} {settings : Settings} {arguments : List String}

theorem read_compositionArguments (plain : ∀ input ∈ plan.inputs, input.IsPlain)
    (written : compositionArguments plan text output settings = .ok arguments) :
    Instruction.read arguments =
      some ⟨plan.inputs.flatMap Input.switches ++ optionsBehind plan text settings, output⟩ := by
  obtain ⟨-, rfl⟩ := compositionArguments_eq_ok_iff.mp written
  rw [Plan.inputArguments, Input.flatMap_arguments_eq plain, behindInputs_eq, ← List.append_assoc,
    ← words_append]
  exact Instruction.read_words ((Input.areTidy_flatMap_switches plan.inputs).append
    (areTidy_optionsBehind plan text settings)) output

/-- The last call names the inputs of its plan in their order, and picks the video and the sound
by the label and the place that the plan has for them. -/
theorem exists_instruction_of_written (plain : ∀ input ∈ plan.inputs, input.IsPlain)
    (written : compositionArguments plan text output settings = .ok arguments) :
    ∃ instruction, Instruction.read arguments = some instruction ∧
      instruction.inputs = plan.inputs.map (fun input => (input.format?, input.path)) ∧
      instruction.values "-map" =
        ["[" ++ plan.videoLabel ++ "]", integerText plan.audioIndex ++ ":a"] ∧
      instruction.values "-filter_complex" = [text] ∧ instruction.output = output := by
  refine ⟨_, read_compositionArguments plain written, ?_, ?_, ?_, rfl⟩
  · rw [inputs, Input.inputsIn_flatMap_switches, inputsIn_optionsBehind, List.append_nil]
  · rw [values_append, Input.values_flatMap_switches _ _ (by decide), optionsBehind, codecOptions]
    split <;> simp [values]
  · rw [values_append, Input.values_flatMap_switches _ _ (by decide), optionsBehind, codecOptions]
    split <;> simp [values]

theorem task_of_written (plain : ∀ input ∈ plan.inputs, input.IsPlain)
    (written : compositionArguments plan text output settings = .ok arguments) :
    Task.read arguments = some ⟨.compose,
      (plan.inputs.filter (·.format? ≠ some "lavfi")).map Input.path, output⟩ := by
  rcases exists_instruction_of_written plain written with
    ⟨instruction, read, inputs, -, filters, rfl⟩
  have composes : instruction.purpose? = some .compose := by
    rw [purpose?, filters, if_pos (List.cons_ne_nil _ _)]
  rw [Task.read, read, Option.bind_some, composes, Instruction.files, inputs, List.filter_map,
    List.map_map]
  rfl

/-! ## Inputs of a scene -/

theorem isPlain_of_mem_sceneInputs {canvas : Int × Int} {fps : Value} {duration : τ}
    {mainAssets : List (Asset (Clip τ) τ)} {layerAssets : List (Asset (Layer τ) τ)}
    {input : Input} (member : input ∈ sceneInputs canvas fps duration mainAssets layerAssets) :
    input.IsPlain := by
  rcases List.mem_append.mp member with member | member
  · unfold mainInputs at member
    split at member
    · rw [List.mem_singleton.mp member]
      rfl
    · rcases List.mem_cons.mp member with rfl | member
      · rfl
      · rcases List.mem_map.mp member with ⟨asset, _, rfl⟩
        rfl
  · rcases List.mem_map.mp member with ⟨asset, _, rfl⟩
    rfl

theorem soleClip?_eq_some {mainAssets : List (Asset (Clip τ) τ)} {asset : Asset (Clip τ) τ}
    (sole : soleClip? mainAssets = some asset) : mainAssets = [asset] := by
  unfold soleClip? at sole
  split at sole
  · split at sole
    · cases sole
      rfl
    · cases sole
  · cases sole

/-- The files among the inputs of a scene are those that hold the pictures. -/
theorem filter_sceneInputs (canvas : Int × Int) (fps : Value) (duration : τ)
    (mainAssets : List (Asset (Clip τ) τ)) (layerAssets : List (Asset (Layer τ) τ)) :
    ((sceneInputs canvas fps duration mainAssets layerAssets).filter
      (·.format? ≠ some "lavfi")).map Input.path =
        mainAssets.map Asset.path ++ layerAssets.map Asset.path := by
  have files {item : Type} (assets : List (Asset item τ)) :
      ((assets.map (⟨·.path, []⟩ : Asset item τ → Input)).filter (·.format? ≠ some "lavfi")).map
        Input.path = assets.map Asset.path := by
    rw [List.filter_eq_self.mpr, List.map_map]
    · rfl
    · intro input member
      rcases List.mem_map.mp member with ⟨asset, _, rfl⟩
      rfl
  rw [sceneInputs, List.filter_append, List.map_append, files layerAssets, mainInputs]
  cases sole : soleClip? mainAssets with
  | some asset => rw [soleClip?_eq_some sole]; rfl
  | none =>
      have source : (canvasInput canvas duration fps).format? = some "lavfi" := rfl
      dsimp only
      rw [List.filter_cons_of_neg (by simp [source]), files mainAssets]

end Montage
