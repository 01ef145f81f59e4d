import ReleaseAdvisor.Grammar.Options

/-!
Grammars of well-known conventions. A preset gives only the options in which it has a say; its
field names are what release rules speak of.
-/

namespace ReleaseAdvisor.Grammar

def headerPreset (source : String) (names : List String) : Layer :=
  [("header_pattern", .pattern (known source)), ("header_correspondence", texts names)]

def revertPreset : Layer :=
  [("revert_pattern", .pattern defaultRevert), ("revert_correspondence", texts ["header", "hash"])]

def angular : Layer :=
  headerPreset "^(\\w*)(?:\\((.*)\\))?: (.*)$" ["type", "scope", "subject"] ++
    [("note_keywords", texts ["BREAKING CHANGE"])] ++ revertPreset

def conventionalCommits : Layer :=
  headerPreset "^(\\w*)(?:\\((.*)\\))?!?: (.*)$" ["type", "scope", "subject"] ++
    [("breaking_header_pattern", .pattern (known "^(\\w*)(?:\\((.*)\\))?!: (.*)$")),
      ("note_keywords", texts ["BREAKING CHANGE", "BREAKING-CHANGE"])] ++ revertPreset

def atom : Layer := headerPreset "^(:.*?:) (.*)$" ["emoji", "shortDesc"]

def ember : Layer := headerPreset "^\\[(.*) (.*)] (.*)$" ["tag", "taggedAs", "message"]

def eslint : Layer := headerPreset "^(\\w*):\\s*(.*)$" ["tag", "message"]

def express : Layer := headerPreset "^(.*):\\s*(.*)$" ["component", "shortDesc"]

def jquery : Layer := headerPreset "^(\\w*): (.*)$" ["component", "shortDesc"]

def jshint : Layer := headerPreset "^\\[\\[(.*)]] (.*)$" ["type", "shortDesc"]

def presets : List (String × Layer) :=
  [("angular", angular), ("atom", atom), ("conventionalcommits", conventionalCommits),
    ("ember", ember), ("eslint", eslint), ("express", express), ("jquery", jquery),
    ("jshint", jshint)]

def preset? (name : String) : Option Layer := presets.lookup (Text.lower name)

end ReleaseAdvisor.Grammar
