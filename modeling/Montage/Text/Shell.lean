/-! Commands as a shell would have to be given them. -/

namespace Montage

def isPlainInShell (char : Char) : Bool :=
  char.isAlphanum || "@%+=:,./_-".toList.contains char

/-- One word: as it is when all its characters are plain, otherwise in single quotes. A
single quote itself is put between double ones. -/
def shellWord (word : String) : String :=
  let chars := word.toList
  if !chars.isEmpty && chars.all isPlainInShell then word
  else
    let inside := chars.flatMap fun char =>
      if char = '\'' then ['\'', '"', '\'', '"', '\''] else [char]
    String.ofList ('\'' :: inside ++ ['\''])

def shellCommand (words : List String) : String :=
  " ".intercalate (words.map shellWord)

example : shellCommand ["ls", "a b", "it's", ""] = "ls 'a b' 'it'\"'\"'s' ''" := by
  decide +kernel

end Montage
