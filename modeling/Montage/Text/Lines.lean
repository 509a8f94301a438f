/-! A text cut into lines. -/

namespace Montage

def endsLine (char : Char) : Bool :=
  ['\n', '\r', '\x0b', '\x0c', '\x1c', '\x1d', '\x1e', '\u0085', '\u2028', '\u2029'].contains char

/-- The first line of a text and what follows its end; a carriage return and a line feed
together end one line. -/
def takeLine : List Char → List Char × List Char
  | [] => ([], [])
  | '\r' :: '\n' :: rest => ([], rest)
  | char :: rest =>
      if endsLine char then ([], rest)
      else
        let (line, after) := takeLine rest
        (char :: line, after)

theorem takeLine_length (text : List Char) :
    (takeLine text).2.length ≤ text.length := by
  fun_induction takeLine text with
  | case1 => simp
  | case2 => simp only [List.length_cons]; omega
  | case3 => simp
  | case4 char rest _ _ line after equal induction =>
      simp only [equal] at induction ⊢
      simp only [List.length_cons]
      omega

theorem takeLine_shorter (text : List Char) (nonempty : text ≠ []) :
    (takeLine text).2.length < text.length := by
  fun_cases takeLine text with
  | case1 => contradiction
  | case2 => simp only [List.length_cons]; omega
  | case3 => simp
  | case4 char rest _ _ line after equal =>
      have bound := takeLine_length rest
      simp only [equal] at bound
      simp only [List.length_cons]
      omega

def lines (text : List Char) : List (List Char) :=
  match text with
  | [] => []
  | char :: rest =>
      have : (takeLine (char :: rest)).2.length < rest.length + 1 :=
        takeLine_shorter (char :: rest) (by simp)
      (takeLine (char :: rest)).1 :: lines (takeLine (char :: rest)).2
termination_by text.length

example : (lines "a\r\n\nb\n".toList).map String.ofList = ["a", "", "b"] := by
  decide +kernel

end Montage
