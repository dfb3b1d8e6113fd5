import Routewright.Files.Workspace

namespace Routewright.Scratch

def directoryName : String := "matte"

def programName : String := "app.go"

def pathIn (root : String) : String :=
  Path.join root directoryName

def clean (directory : String) : Work Unit := do
  if (← Work.tree).pathExists directory then Work.perform (.removeDirectory directory)

def writeProgram (directory source : String) : Work String := do
  clean directory
  Work.perform (.makeDirectory directory)
  let path := Path.join directory programName
  Work.perform (.write path source)
  return path

end Routewright.Scratch
