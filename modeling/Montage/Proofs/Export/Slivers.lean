import Montage.Proofs.Export.LastCall
import Montage.Proofs.Graph.Compilation
import Montage.Proofs.Timeline.Times

/-! Clips that play for a moment only. Whether a clip plays is decided on its exact window, but
its times are written in thousandths: what the arguments of ffmpeg say of it is that it is shown
when it outlasts the rounding. -/

namespace Montage

/-! ## Reading arguments back -/

def trimTexts? : List String → Option (String × String)
  | "-ss" :: start :: "-i" :: _ :: "-t" :: length :: _ => some (start, length)
  | _ => none

def lengthText? (arguments : List String) : Option String :=
  match arguments.reverse with
  | _ :: "-y" :: length :: "-t" :: _ => some length
  | _ => none

def boundAfter? (front text : List Char) : Option (WithTop ℚ × List Char) :=
  if front.isPrefixOf text then
    let rest := text.drop front.length
    (secondsOf? (rest.takeWhile (· ≠ ')'))).map (·, rest.dropWhile (· ≠ ')'))
  else none

def gateBounds? (text : List Char) : Option (WithTop ℚ × WithTop ℚ) := do
  let (start, rest) ← boundAfter? "gte(t,".toList text
  let (stop, rest) ← boundAfter? ")*lt(t,".toList rest
  if rest = [')'] then some (start, stop) else none

example : gateBounds? "gte(t,0.5)*lt(t,2)".toList =
    some (((1 / 2 : ℚ) : WithTop ℚ), ((2 : ℚ) : WithTop ℚ)) := by
  decide +kernel

def OpensAt (gate : String) (time : ℚ) : Prop :=
  ∃ start stop, gateBounds? gate.toList = some (start, stop) ∧ start ≤ time ∧ time < stop

/-- The expression under which the last of the pictures that are drawn is seen. -/
def Picture.gate? : Picture → Option String
  | .drawn params _ _ => params.lookup "enable"
  | _ => none

theorem boundAfter?_append (front : List Char) {text : List Char} {time : WithTop ℚ}
    (read : secondsOf? text = some time) (rest : List Char) :
    boundAfter? front (front ++ (text ++ ')' :: rest)) = some (time, ')' :: rest) := by
  have noBracket : ∀ char ∈ text, decide (char ≠ ')') = true :=
    fun char member => decide_eq_true (ne_bracket_of_secondsOf? read char member)
  unfold boundAfter?
  rw [if_pos (by simp), List.drop_left]
  dsimp only
  rw [List.takeWhile_append_of_pos noBracket, List.takeWhile_cons_of_neg (by decide),
    List.append_nil, List.dropWhile_append_of_pos noBracket,
    List.dropWhile_cons_of_neg (by decide), read]
  rfl

theorem gateBounds?_eq {start stop : String} {first last : WithTop ℚ}
    (startRead : secondsOf? start.toList = some first)
    (stopRead : secondsOf? stop.toList = some last) :
    gateBounds? ("gte(t," ++ start ++ ")*lt(t," ++ stop ++ ")").toList = some (first, last) := by
  have text : ("gte(t," ++ start ++ ")*lt(t," ++ stop ++ ")").toList =
      "gte(t,".toList ++ (start.toList ++ ')' :: ("*lt(t,".toList ++ (stop.toList ++ [')']))) := by
    have middle : ")*lt(t,".toList = ')' :: "*lt(t,".toList := rfl
    have last : ")".toList = [')'] := rfl
    simp only [String.toList_append, middle, last, List.append_assoc, List.cons_append]
  have second := boundAfter?_append ")*lt(t,".toList stopRead []
  rw [text, gateBounds?, boundAfter?_append _ startRead]
  change (boundAfter? ")*lt(t,".toList (")*lt(t,".toList ++ (stop.toList ++ [')']))).bind _ = _
  rw [second]
  rfl

theorem opensAt_iff {start stop : String} {first last : WithTop ℚ}
    (startRead : secondsOf? start.toList = some first)
    (stopRead : secondsOf? stop.toList = some last) (time : ℚ) :
    OpensAt ("gte(t," ++ start ++ ")*lt(t," ++ stop ++ ")") time ↔ first ≤ time ∧ time < last := by
  unfold OpensAt
  rw [gateBounds?_eq startRead stopRead]
  constructor
  · rintro ⟨_, _, same, opens⟩
    cases same
    exact opens
  · exact fun opens => ⟨first, last, rfl, opens⟩

theorem exists_opensAt_iff {start stop : String} {first last : WithTop ℚ}
    (startRead : secondsOf? start.toList = some first)
    (stopRead : secondsOf? stop.toList = some last) :
    (∃ time, OpensAt ("gte(t," ++ start ++ ")*lt(t," ++ stop ++ ")") time) ↔ first < last := by
  simp only [opensAt_iff startRead stopRead]
  constructor
  · rintro ⟨time, late, early⟩
    exact lt_of_le_of_lt late early
  · intro less
    rcases WithTop.ne_top_iff_exists.mp less.ne_top with ⟨time, rfl⟩
    exact ⟨time, le_rfl, less⟩

/-! ## What is said of a clip -/

namespace Extraction

def BeginsFromZero (extraction : Extraction Float) : Prop :=
  ∃ seek length start, trimTexts? extraction.arguments = some (seek, length) ∧
    secondsOf? seek.toList = some start ∧ 0 ≤ start

def Lasts (extraction : Extraction Float) : Prop :=
  ∃ seek length duration, trimTexts? extraction.arguments = some (seek, length) ∧
    secondsOf? length.toList = some duration ∧ 0 < duration

end Extraction

/-- What the arguments of ffmpeg say of a clip that is really shown: both of its streams are
extracted from a part of the source that is there, it is drawn at some time, and the output is
longer than nothing. -/
structure ReallyShown (clip : Clip Float) (checked : CheckedTimeline Float)
    (window : Window Float) : Prop where
  extracted : ∀ stream workspace ordinal settings, ∃ extraction,
    clip.extraction? stream checked.timeline workspace ordinal settings = some extraction ∧
      extraction.BeginsFromZero ∧ extraction.Lasts
  drawn : ∀ canvas base path, ∀ picture ∈ [mainOver canvas base ⟨clip, window, path⟩,
      layerOver canvas base ⟨.ofClip clip, window, path⟩],
    ∃ gate time, picture.gate? = some gate ∧ OpensAt gate time
  composed : ∀ settings mainAssets layerAssets audioPath plan graphText output arguments,
    (planMontage checked settings mainAssets layerAssets audioPath).1 = .ok plan →
      compositionArguments plan graphText output settings = .ok arguments →
        ∃ length duration, lengthText? arguments = some length ∧
          secondsOf? length.toList = some duration ∧ 0 < duration

structure OutlastsRounding (clip : Clip Float) (checked : CheckedTimeline Float)
    (window : Window Float) : Prop where
  duration : ∃ length, Double.seconds? (clip.sourcePart checked.timeline).duration = some length ∧
    ((1 / 2000 : ℚ) : WithTop ℚ) < length
  window : ∃ start stop, Double.seconds? window.start = some start ∧
    Double.seconds? window.stop = some stop ∧ toThousandth start < toThousandth stop
  output : ∃ length, Double.seconds? checked.outputDuration = some length ∧
    ((1 / 2000 : ℚ) : WithTop ℚ) < length

variable {clip : Clip Float} {timeline : Timeline Float} {window : Window Float}

theorem trimTexts?_extractionIn (stream : Stream) (workspace : Workspace) (ordinal : Int)
    (settings : Settings) :
    trimTexts? (clip.extractionIn stream timeline workspace ordinal settings window).arguments =
      some (Quantity.thousandths (clip.sourcePart timeline).start,
        Quantity.thousandths (clip.sourcePart timeline).duration) := rfl

theorem lengthText?_compositionArguments {plan : Plan Float} {graphText output : String}
    {settings : Settings} {arguments : List String}
    (written : compositionArguments plan graphText output settings = .ok arguments) :
    lengthText? arguments = some (Quantity.thousandths plan.duration) := by
  obtain ⟨-, rfl⟩ := compositionArguments_eq_ok_iff.mp written
  simp [lengthText?, behindInputs]

section

variable {τ : Type} [Quantity τ]

def gateText (window : Window τ) : String :=
  "gte(t," ++ Quantity.thousandths window.start ++ ")*lt(t," ++
    Quantity.thousandths window.stop ++ ")"

theorem gate?_overlaid (base top : Picture) (x y : Int) (window : Window τ) :
    (base.overlaid top x y window).gate? = some (gateText window) := by
  simp [Picture.overlaid, Picture.gate?, gateText, List.lookup_cons]

theorem gate?_mainOver (canvas : Int × Int) (base : Picture) (asset : Asset (Clip τ) τ) :
    (mainOver canvas base asset).gate? = some (gateText asset.window) :=
  gate?_overlaid ..

theorem gate?_layerOver (canvas : Int × Int) (base : Picture) (asset : Asset (Layer τ) τ) :
    (layerOver canvas base asset).gate? = some (gateText asset.window) := by
  unfold layerOver
  dsimp only
  split
  · exact gate?_overlaid ..
  · exact gate?_overlaid ..

end

/-- The text of a time is that of a positive one unless the rounding takes all of it. -/
theorem exists_pos_iff {number : Float} (reaches : Double.ReachesZero number) :
    (∃ time, secondsOf? (Quantity.thousandths number).toList = some time ∧ 0 < time) ↔
      ∃ length, Double.seconds? number = some length ∧ ((1 / 2000 : ℚ) : WithTop ℚ) < length := by
  rcases Double.exists_secondsOf? reaches with ⟨time, isTime, _, read⟩
  simp only [read, isTime, Option.some.injEq, exists_eq_left', toThousandth_pos_iff]

namespace Clip.HasTimes

variable (times : clip.HasTimes timeline window)
include times

theorem beginsFromZero (stream : Stream) (workspace : Workspace) (ordinal : Int)
    (settings : Settings) :
    (clip.extractionIn stream timeline workspace ordinal settings window).BeginsFromZero := by
  rcases Double.exists_secondsOf? times.seek with ⟨time, _, nonneg, read⟩
  exact ⟨_, _, _, trimTexts?_extractionIn stream workspace ordinal settings, read,
    toThousandth_nonneg nonneg⟩

theorem lasts_iff (stream : Stream) (workspace : Workspace) (ordinal : Int)
    (settings : Settings) :
    (clip.extractionIn stream timeline workspace ordinal settings window).Lasts ↔
      ∃ length, Double.seconds? (clip.sourcePart timeline).duration = some length ∧
        ((1 / 2000 : ℚ) : WithTop ℚ) < length := by
  rw [← exists_pos_iff times.duration]
  constructor
  · rintro ⟨seek, length, duration, texts, lasts⟩
    cases (trimTexts?_extractionIn stream workspace ordinal settings).symm.trans texts
    exact ⟨duration, lasts⟩
  · rintro ⟨duration, lasts⟩
    exact ⟨_, _, duration, trimTexts?_extractionIn stream workspace ordinal settings, lasts⟩

theorem opens_iff :
    (∃ time, OpensAt (gateText window) time) ↔
      ∃ start stop, Double.seconds? window.start = some start ∧
        Double.seconds? window.stop = some stop ∧ toThousandth start < toThousandth stop := by
  rcases Double.exists_secondsOf? times.start with ⟨start, isStart, _, startRead⟩
  rcases Double.exists_secondsOf? times.stop with ⟨stop, isStop, _, stopRead⟩
  rw [gateText, exists_opensAt_iff startRead stopRead]
  simp only [isStart, isStop, Option.some.injEq, exists_and_left, exists_eq_left']

end Clip.HasTimes

variable {checked : CheckedTimeline Float}

/-- In an accepted timeline every clip that plays is extracted from zero or later on; and it is
really shown exactly when it outlasts the rounding. -/
theorem reallyShown_iff (passed : timeline.check = .ok checked) (member : clip ∈ timeline.clips)
    (plays : clip.window? timeline = some window) :
    (∀ stream workspace ordinal settings, ∃ extraction,
      clip.extraction? stream timeline workspace ordinal settings = some extraction ∧
        extraction.BeginsFromZero) ∧
      (ReallyShown clip checked window ↔ OutlastsRounding clip checked window) := by
  have times := Clip.hasTimes passed member plays
  have sameTimeline : checked.timeline = timeline := by rw [Timeline.checked_eq passed]; rfl
  have extracts (stream workspace ordinal settings) :
      clip.extraction? stream timeline workspace ordinal settings =
        some (clip.extractionIn stream timeline workspace ordinal settings window) := by
    rw [Clip.extraction?_eq, plays, Option.map_some]
  have total := exists_pos_iff (Timeline.reachesZero_outputDuration passed)
  have noLayers : ∀ asset ∈ ([] : List (Asset (Layer Float) Float)),
      asset.item.overlay.IsReadable := by simp
  refine ⟨fun stream workspace ordinal settings => ⟨_, extracts .., times.beginsFromZero ..⟩, ?_⟩
  constructor
  · intro shown
    constructor
    · rcases shown.extracted .video { path := .ofText "/", exportId := "" } 0 {} with
        ⟨extraction, isExtraction, _, lasts⟩
      rw [sameTimeline, extracts] at isExtraction
      cases isExtraction
      rw [sameTimeline]
      exact (times.lasts_iff ..).mp lasts
    · rcases shown.drawn (0, 0) (.source ⟨"", []⟩) "" _ List.mem_cons_self with
        ⟨gate, time, isGate, opens⟩
      cases (gate?_mainOver ..).symm.trans isGate
      exact times.opens_iff.mp ⟨time, opens⟩
    · have canvas : twoIntegers ({} : Settings).canvas = .ok (1920, 1080) :=
        twoIntegers_pairOf 1920 1080
      have rate : ({} : Settings).fps.isWritable = true := by decide +kernel
      rcases exists_plan checked canvas [] noLayers (hasWritableNumbers_of_no_layers []) "" with
        ⟨plan, planned, planDuration, _⟩
      have written := compositionArguments_of_rate rate plan "" ""
      rcases shown.composed {} [] [] "" plan "" "" _ planned written with
        ⟨length, duration, isLength, lasts⟩
      cases (lengthText?_compositionArguments written).symm.trans isLength
      rw [planDuration] at lasts
      exact total.mp ⟨duration, lasts⟩
  · intro outlasts
    constructor
    · intro stream workspace ordinal settings
      have long := outlasts.duration
      rw [sameTimeline] at long ⊢
      exact ⟨_, extracts .., times.beginsFromZero .., (times.lasts_iff ..).mpr long⟩
    · intro canvas base path picture pictureMember
      rcases times.opens_iff.mpr outlasts.window with ⟨time, opens⟩
      simp only [List.mem_cons, List.not_mem_nil, or_false] at pictureMember
      rcases pictureMember with rfl | rfl
      · exact ⟨_, time, gate?_mainOver .., opens⟩
      · exact ⟨_, time, gate?_layerOver .., opens⟩
    · intro settings mainAssets layerAssets audioPath plan graphText output arguments planned
        written
      rcases total.mpr outlasts.output with ⟨duration, lasts⟩
      rw [← duration_of_planMontage planned] at lasts
      exact ⟨_, duration, lengthText?_compositionArguments written, lasts⟩

def Timeline.lone (stop : Float) : Timeline Float :=
  .ofClips [.ofTrim "lone.mp4" 0.0 stop]

theorem reallyShown_lone_four :
    let clip : Clip Float := .ofTrim "lone.mp4" 0.0 4.0
    let timeline := Timeline.lone 4.0
    timeline.check = .ok timeline.sorted ∧ clip ∈ timeline.clips ∧
      ∃ window, clip.window? timeline = some window ∧
        ReallyShown clip timeline.sorted window := by
  intro clip timeline
  have passed : timeline.check = .ok timeline.sorted :=
    Timeline.check_eq_of_isSome (by decide)
  have member : clip ∈ timeline.clips := List.mem_cons_self
  have bounds : (clip.window? timeline).map (fun window : Window Float =>
      (Double.seconds? window.start, Double.seconds? window.stop)) =
        some (some ((0 : ℚ) : WithTop ℚ), some ((4 : ℚ) : WithTop ℚ)) := by
    decide +kernel
  have length : Double.seconds? (clip.sourcePart timeline).duration =
      some ((4 : ℚ) : WithTop ℚ) := by
    decide +kernel
  have total : Double.seconds? timeline.sorted.outputDuration = some ((4 : ℚ) : WithTop ℚ) := by
    have main : timeline.mainClips = [clip] := Timeline.mainClips_singleton rfl
    simp only [CheckedTimeline.outputDuration, Timeline.sorted, main]
    decide +kernel
  have long : ((1 / 2000 : ℚ) : WithTop ℚ) < ((4 : ℚ) : WithTop ℚ) := by decide +kernel
  rcases Option.map_eq_some_iff.mp bounds with ⟨window, plays, values⟩
  rcases Prod.mk.inj values with ⟨start, stop⟩
  have outlasts : OutlastsRounding clip timeline.sorted window :=
    ⟨⟨_, length, long⟩, ⟨_, _, start, stop, by decide +kernel⟩, ⟨_, total, long⟩⟩
  exact ⟨passed, member, window, plays, (reallyShown_iff passed member plays).2.mpr outlasts⟩

/-- Four tenths of a thousandth of a second: the clip plays, and is extracted for no time. -/
theorem not_reallyShown_lone_moment :
    let clip : Clip Float := .ofTrim "lone.mp4" 0.0 0.0004
    let timeline := Timeline.lone 0.0004
    timeline.check = .ok timeline.sorted ∧ clip ∈ timeline.clips ∧
      ∃ window, clip.window? timeline = some window ∧
        ¬ ReallyShown clip timeline.sorted window := by
  intro clip timeline
  have passed : timeline.check = .ok timeline.sorted :=
    Timeline.check_eq_of_isSome (by decide)
  have plays : (clip.window? timeline).isSome = true := by decide
  rcases Option.isSome_iff_exists.mp plays with ⟨window, plays⟩
  refine ⟨passed, List.mem_cons_self, window, plays, ?_⟩
  intro shown
  rcases shown.extracted .video { path := .ofText "/", exportId := "" } 0 {} with
    ⟨extraction, isExtraction, _, seek, length, duration, texts, read, positive⟩
  have extracted := clip.extraction?_eq .video timeline { path := .ofText "/", exportId := "" } 0 {}
  rw [plays, Option.map_some] at extracted
  cases extracted.symm.trans isExtraction
  cases (trimTexts?_extractionIn ..).symm.trans texts
  have none : secondsOf? (Quantity.thousandths (clip.sourcePart timeline).duration).toList =
      some ((0 : ℚ) : WithTop ℚ) := by
    decide +kernel
  cases none.symm.trans read
  exact lt_irrefl _ positive

end Montage
