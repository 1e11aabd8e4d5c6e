import TapeDeck.Catalog.Basic

/-!
# The built-in catalog

The programs that are there when no catalog file is given.
-/

namespace TapeDeck

/-- The programs of the built-in catalog. -/
def builtinPrograms : List Program :=
  [⟨0, Bytes.ofString "hello world", Bytes.ofString
      ("++++++++[>++++[>++>+++>+++>+<<<<-]>+>+>->>+[<]<-]>>.>---.+++++++..+++.>>.<-.<.+++." ++
        "------.--------.>>+.>++.")⟩,
   ⟨1, Bytes.ofString "countdown",
      Bytes.ofString "++++++++[>++++++<-]>+++++++++<+++++++++[>.-<-]"⟩,
   ⟨2, Bytes.ofString "loop", Bytes.ofString "++[-.]"⟩,
   ⟨3, Bytes.ofString "add", Bytes.ofString
      "+++>++++<[->+<]>++++++++++++++++++++++++++++++++++++++++++++++++."⟩,
   ⟨999, Bytes.ofString "not found", Bytes.ofString "++++++++[>++++++<-]>++++.----.++++."⟩]

/-- The catalog that is used when no file is given. -/
def builtinCatalog : Catalog where
  programs := builtinPrograms
  ascending := by simp [Program.Ascending, builtinPrograms]

end TapeDeck
