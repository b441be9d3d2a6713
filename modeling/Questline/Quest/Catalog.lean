import Questline.Quest.Check
set_option autoImplicit false

/-!
# Quest: the quests of the game

The quests of each zone, in the order in which they are shown and judged.
-/

namespace Questline.Quest

/-- The quests of the Terminal Plains. -/
def plainsQuests : List Quest := [
  { id := "plains-help"
    zone := .plains
    title := "Meet the Shell"
    intro := "Explore the basics of ShellQuest."
    goal := "Use the help command to see available actions."
    hints := ["Type `help` and press enter."]
    check := .commandUsed "help"
    reward := ⟨15, 5, some .navigation⟩ },
  { id := "plains-clear"
    zone := .plains
    title := "Fresh Screen"
    intro := "A clear view is a calm mind."
    goal := "Clear the terminal."
    hints := ["Type `clear` to wipe the log."]
    check := .commandUsed "clear"
    reward := ⟨15, 5, some .navigation⟩ },
  { id := "plains-pwd"
    zone := .plains
    title := "Where am I?"
    intro := "Location matters in the Plains."
    goal := "Check your working directory."
    hints := ["Use `pwd` to print the working directory."]
    check := .commandUsed "pwd"
    reward := ⟨20, 6, some .navigation⟩ },
  { id := "plains-ls"
    zone := .plains
    title := "Survey the Fields"
    intro := "List what is around you."
    goal := "Run ls to list the contents of the Plains."
    hints := ["`ls` shows files and folders."]
    check := .commandUsed "ls"
    reward := ⟨20, 6, some .navigation⟩ },
  { id := "plains-cd"
    zone := .plains
    title := "Step into Tutorials"
    intro := "Move between locations."
    goal := "Change directory into the tutorials folder."
    hints := ["`cd tutorials` should do it."]
    check := .pathVisited "/home/adventurer/tutorials"
    reward := ⟨25, 7, some .navigation⟩ },
  { id := "plains-mkdir"
    zone := .plains
    title := "Make Space"
    intro := "You can build your own corners."
    goal := "Create a directory named practice."
    hints := ["`mkdir practice` while in your home folder."]
    check := .nodeExists "/home/adventurer/practice"
    reward := ⟨25, 8, some .files⟩ },
  { id := "plains-touch"
    zone := .plains
    title := "First Note"
    intro := "Create your own file."
    goal := "Use touch to create start.txt."
    hints := ["`touch start.txt`"]
    check := .nodeExists "start.txt"
    reward := ⟨25, 8, some .files⟩ },
  { id := "plains-cat"
    zone := .plains
    title := "Read the Welcome"
    intro := "The Plains have simple lore."
    goal := "Read notes.txt using cat."
    hints := ["`cat notes.txt` from your home folder."]
    check := .commandUsed "cat notes.txt"
    reward := ⟨30, 10, some .text⟩ }]

/-- The quests of the Filewood Forest. -/
def forestQuests : List Quest := [
  { id := "forest-cat-trail"
    zone := .forest
    title := "Follow the Trail"
    intro := "Stories are etched into the woods."
    goal := "Read forest/trail.txt."
    hints := ["Try `cat forest/trail.txt`."]
    check := .commandUsed "cat forest/trail.txt"
    reward := ⟨30, 12, some .text⟩ },
  { id := "forest-touch-log"
    zone := .forest
    title := "Write a Log"
    intro := "Record your travels."
    goal := "Create travel.log with touch."
    hints := ["`touch travel.log`"]
    check := .nodeExists "travel.log"
    reward := ⟨30, 12, some .files⟩ },
  { id := "forest-mkdir"
    zone := .forest
    title := "Build a Camp"
    intro := "Prepare a base in the woods."
    goal := "Make a directory named camp."
    hints := ["`mkdir camp`"]
    check := .nodeExists "camp"
    reward := ⟨30, 12, some .files⟩ },
  { id := "forest-echo"
    zone := .forest
    title := "Leave a Message"
    intro := "Trees remember what you write."
    goal := "Use echo to create camp/todo.txt with text."
    hints := ["`echo \"gather wood\" > camp/todo.txt`"]
    check := .fileContains "/home/adventurer/camp/todo.txt" "gather"
    reward := ⟨35, 14, some .text⟩ },
  { id := "forest-rm"
    zone := .forest
    title := "Clear the Path"
    intro := "Remove obstacles when needed."
    goal := "Delete travel.log."
    hints := ["Create it with touch if you have not, then `rm travel.log`."]
    check := .all [.commandContains ["rm", "travel.log"], .nodeAbsent "travel.log"]
    reward := ⟨35, 14, some .files⟩ },
  { id := "forest-cat-plan"
    zone := .forest
    title := "Read the Plan"
    intro := "Plans guide your steps."
    goal := "Read camp/todo.txt."
    hints := ["`cat camp/todo.txt`"]
    check := .commandUsed "cat camp/todo.txt"
    reward := ⟨35, 14, some .text⟩ },
  { id := "forest-cd-camp"
    zone := .forest
    title := "Enter the Camp"
    intro := "Move into your new base."
    goal := "cd into camp directory."
    hints := ["`cd camp`"]
    check := .pathVisited "/home/adventurer/camp"
    reward := ⟨35, 14, some .navigation⟩ },
  { id := "forest-ls-grep"
    zone := .forest
    title := "Filter the Underbrush"
    intro := "Use a pipe to find files."
    goal := "Run ls piped to grep for txt."
    hints := ["`ls | grep txt`"]
    check := .commandContains ["ls", "|", "grep"]
    reward := ⟨40, 16, some .text⟩ },
  { id := "forest-grep-roots"
    zone := .forest
    title := "Search the Roots"
    intro := "Find mentions of roots."
    goal := "Use grep to find \"roots\" in forest/trail.txt."
    hints := ["`grep roots forest/trail.txt`"]
    check := .commandUsed "grep roots forest/trail.txt"
    reward := ⟨40, 16, some .text⟩ }]

/-- The quests of the Grep Caves. -/
def cavesQuests : List Quest := [
  { id := "caves-echo-repeat"
    zone := .caves
    title := "Echoes in the Cave"
    intro := "Find the repeating voice."
    goal := "Read caves/echo.txt with grep to find echo."
    hints := ["`grep echo caves/echo.txt`"]
    check := .commandUsed "grep echo caves/echo.txt"
    reward := ⟨45, 18, some .text⟩ },
  { id := "caves-touch-journal"
    zone := .caves
    title := "Document the Echoes"
    intro := "Create a journal."
    goal := "Create journal.txt and add a line to it."
    hints := ["`touch journal.txt` then echo into it."]
    check := .fileContains "journal.txt" ""
    reward := ⟨45, 18, some .files⟩ },
  { id := "caves-echo-lines"
    zone := .caves
    title := "Layered Notes"
    intro := "Add multiple lines to a file and search them."
    goal := "Create lines in journal.txt and grep for cave."
    hints := ["Use echo to rewrite journal.txt, then `grep cave journal.txt`."]
    check := .all [.fileContains "journal.txt" "", .commandUsed "grep cave journal.txt"]
    reward := ⟨50, 20, some .text⟩ },
  { id := "caves-cd-depths"
    zone := .caves
    title := "Change Levels"
    intro := "Move deeper while keeping bearings."
    goal := "cd into caves and back out."
    hints := ["`cd ../caves` then `cd ..`"]
    check := .pathVisited "/home/adventurer/caves"
    reward := ⟨45, 18, some .navigation⟩ },
  { id := "caves-ls-grep"
    zone := .caves
    title := "Pipe Scout"
    intro := "Use a pipe to search listing output."
    goal := "Use ls | grep echo"
    hints := ["`ls | grep echo`"]
    check := .commandContains ["ls | grep echo"]
    reward := ⟨50, 20, some .text⟩ },
  { id := "caves-rm-clean"
    zone := .caves
    title := "Clean Slate"
    intro := "Remove a file you created."
    goal := "Remove journal.txt."
    hints := ["Use `rm journal.txt`."]
    check := .all [.commandContains ["rm", "journal.txt"], .nodeAbsent "journal.txt"]
    reward := ⟨45, 18, some .files⟩ },
  { id := "caves-echo-story"
    zone := .caves
    title := "Tell a Cave Story"
    intro := "Write a story file."
    goal := "Use echo to create story.txt with the word \"grep\" inside."
    hints := ["`echo \"grep adventure\" > story.txt`"]
    check := .fileContains "story.txt" "grep"
    reward := ⟨55, 22, some .text⟩ },
  { id := "caves-grep-story"
    zone := .caves
    title := "Search Your Tale"
    intro := "Use grep on your own writing."
    goal := "Run grep to find grep inside story.txt."
    hints := ["`grep grep story.txt`"]
    check := .commandUsed "grep grep story.txt"
    reward := ⟨55, 22, some .text⟩ }]

/-- All quests, zone after zone. -/
def catalog : List Quest := plainsQuests ++ forestQuests ++ cavesQuests

/-- The quest of that name. -/
def find? (id : String) : Option Quest := catalog.find? fun q => q.id == id

end Questline.Quest
