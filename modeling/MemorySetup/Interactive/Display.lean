/-
A session on a screen.

After every event the screen is drawn again, and with it the editor's viewport follows the cursor. A display is a
session together with that viewport.
-/
import MemorySetup.Interactive.View

namespace MemorySetup.Interactive

/-- a session on a screen of a given size -/
structure Display where
  size : ScreenSize
  session : Session
  viewport : Viewport
  deriving DecidableEq, Repr

namespace Display

/-- show a session, coming from a given viewport -/
def refresh (size : ScreenSize) (v : Viewport) (session : Session) : Display :=
  ⟨size, session, v.follow size session.editor⟩

def start (size : ScreenSize) (session : Session) : Display :=
  refresh size ⟨0, 0⟩ session

def sizeAfter (d : Display) : Event → ScreenSize
  | .resize width height => ⟨width, height⟩
  | _ => d.size

/-- take an event and draw again -/
def handle (d : Display) (event : Event) : Option Display :=
  (d.session.handle event).map (refresh (d.sizeAfter event) d.viewport)

/-- take events one by one, as long as the session goes on -/
def handleAll (d : Display) (events : List Event) : Option Display :=
  events.foldlM handle d

def rows (d : Display) : List Row :=
  draw d.session d.viewport d.size

def cursor (d : Display) : Position :=
  cursorPosition d.viewport d.session.editor

end Display

end MemorySetup.Interactive
