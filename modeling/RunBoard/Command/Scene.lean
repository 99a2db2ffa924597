import RunBoard.Command.Shell

/-!
# Scenes

A machine, a gateway and a user as values. In a scene everything that a command reads and
writes, and every request that it sends, can be looked at afterwards.
-/

namespace RunBoard.Command

/-- `sent` holds the requests, and `printed` and `warned` what the user has seen, in order;
`typed` is what the user has still to be asked for. -/
structure Scene where
  files : Files.Tree
  sent : List Http.Request
  typed : List Char
  printed : String
  warned : String
  now : Timestamp

namespace Scene

def ofFiles (files : Files.Tree) : Scene := ⟨files, [], [], "", "", .epoch⟩

/-- Sends a request to a gateway, which sees the requests before it too. -/
def exchange (gateway : List Http.Request → Http.Request → Http.Exchange)
    (request : Http.Request) : StateM Scene Http.Exchange :=
  fun scene => (gateway scene.sent request, { scene with sent := scene.sent ++ [request] })

def host (gateway : List Http.Request → Http.Request → Http.Exchange) : Host (StateM Scene) where
  exchange := exchange gateway
  look _ := fun scene => (scene.files, scene)
  put _ files := fun scene => (.ok (), { scene with files := files })

/-- Takes the next line. -/
def readLine (scene : Scene) : String × Scene :=
  let line := scene.typed.takeWhile (· ≠ '\n')
  let behind := scene.typed.dropWhile (· ≠ '\n')
  (String.ofList (line ++ behind.take 1), { scene with typed := behind.drop 1 })

/-- The clock goes on where the program waits, and only there. -/
def pause (millis : Nat) (scene : Scene) : Scene :=
  { scene with now := (Timestamp.ofMillis? (scene.now.millis + millis)).getD scene.now }

def console : Console (StateM Scene) where
  print text := fun scene => ((), { scene with printed := scene.printed ++ text })
  warn text := fun scene => ((), { scene with warned := scene.warned ++ text })
  readLine := readLine
  now := fun scene => (scene.now, scene)
  pause millis := fun scene => ((), scene.pause millis)

end Scene

end RunBoard.Command
