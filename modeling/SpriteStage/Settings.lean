import SpriteStage.Datum.Written

/-!
# Settings

The settings come from environment variables. A variable that is missing or empty leaves a setting
as it is by default; one that does not read as the number it should be is noted in the log and
leaves it too.
-/

namespace SpriteStage

/-- How the stage is set up. -/
structure Settings where
  /-- The wait after each step of a program, in seconds. -/
  pacing : Float := 0.1
  /-- The wait between two looks for collisions, in seconds. -/
  tick : Float := 0.1
  /-- The direction that actors start from. -/
  home : Float := 90.0
  width : Int := 480
  height : Int := 360
  /-- How many earlier snapshots are kept. -/
  history : Int := 200
  host : String := "127.0.0.1"
  port : Int := 8080

namespace Settings

/-- The settings that hold if nothing is said. -/
def standard : Settings := {}

/-- What the names of the variables begin with. -/
def variableStem : String := "BLOCKSTAGE_"

/-- A setting read so far, with the lines for the log. -/
abbrev Logged := StateM (List String)

/-- Reads one variable; the default stands in for a missing, empty or unreadable one. -/
def readOne {α : Type} (env : String → Option String) (name : String) (read : String → Option α)
    (shown : α → Datum) (default : α) : Logged α := do
  let name := variableStem ++ name
  match env name with
  | none | some "" => return default
  | some raw =>
    match read raw with
    | some value => return value
    | none =>
      let line := "[Config] invalid " ++ name ++ "=" ++ Text.quoted raw ++ ", using " ++
        (shown default).label
      modify (· ++ [line])
      return default

/-- Reads one variable as a double. -/
def readFloat (env : String → Option String) (name : String) (default : Float) : Logged Float :=
  readOne env name Number.readFloat? .float default

/-- Reads one variable as a whole number. -/
def readInt (env : String → Option String) (name : String) (default : Int) : Logged Int :=
  readOne env name (fun raw => (Number.readInt raw).toOption) .int default

/-- Reads all settings, in a fixed order. -/
def read (env : String → Option String) : Logged Settings := do
  let pacing ← readFloat env "PACING_SECONDS" standard.pacing
  let tick ← readFloat env "COLLISION_TICK_SECONDS" standard.tick
  let home ← readFloat env "HOME_DIRECTION" standard.home
  let width ← readInt env "STAGE_WIDTH" standard.width
  let height ← readInt env "STAGE_HEIGHT" standard.height
  let history ← readInt env "HISTORY_LIMIT" standard.history
  let host := (env (variableStem ++ "HOST")).getD standard.host
  let port ← readInt env "PORT" standard.port
  return { pacing, tick, home, width, height, history, host, port }

/-- The settings that the environment gives, and the lines for the log. -/
def ofEnvironment (env : String → Option String) : Settings × List String := (read env).run []

/-- The settings as data. -/
def toDatum (s : Settings) : Datum :=
  .object [("pacing_seconds", .float s.pacing), ("collision_tick_seconds", .float s.tick),
    ("home_direction", .float s.home), ("stage_width", .int s.width),
    ("stage_height", .int s.height), ("history_limit", .int s.history), ("host", .str s.host),
    ("port", .int s.port)]

end Settings

end SpriteStage
