import Sargam.Sequence
import Sargam.Swara.Rendering

/-!
# Reports

A report tells a reader of typed music all that there is to tell: either the music text with
a view of each swara, or every word that was rejected.

* `SwaraView`: all that is shown of one swara.
* `Report`, `Report.ofText`: the outcome of reading a text.
-/

namespace Sargam

/-- What is shown of one swara. -/
structure SwaraView where
  base : BaseNote
  modifier : Modifier
  octave : Int
  svarName : String
  degree : Nat
  token : String
  rendered : String
  deriving DecidableEq, Repr

/-- The view of a swara. -/
def SwaraView.ofSwara (options : RenderOptions) (s : Swara) : SwaraView where
  base := s.base
  modifier := s.modifier
  octave := s.octave
  svarName := s.base.svarName
  degree := s.base.degree
  token := s.token
  rendered := s.render options

/-- The outcome of reading a text. -/
structure Report where
  ok : Bool
  /-- The whole text as music text, if it could be read. -/
  rendered : Option String
  swaras : List SwaraView
  errors : List Rejection
  deriving DecidableEq, Repr

namespace Report

/-- What stands between two swaras unless something else is asked for. -/
def defaultSeparator : String := " "

/-- The report on a text. -/
def ofText (options : RenderOptions) (separator text : String) : Report :=
  match parseSequence text with
  | .ok swaras =>
    ⟨true, some (renderSequence options separator swaras),
      swaras.map (SwaraView.ofSwara options), []⟩
  | .error refused => ⟨false, none, [], refused⟩

end Report

end Sargam
