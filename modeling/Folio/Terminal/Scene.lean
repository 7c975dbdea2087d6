import Folio.Output
import Folio.Text.Layout

namespace Folio.Terminal

open Folio.Text

inductive Scene where
  | tatakae
  | gear5
  | bankai
  | makiZenin
  deriving DecidableEq, Repr

namespace Scene

def name : Scene → String
  | tatakae => "tatakae"
  | gear5 => "gear5"
  | bankai => "bankai"
  | makiZenin => "maki-zenin"

def achievement : Scene → String
  | tatakae => "The Rumbling"
  | gear5 => "Joyboy Returns"
  | bankai => "Soul Reaper"
  | makiZenin => "Zenin Clan Rebel"

def picture : Scene → List String
  | tatakae => [
      "    ⚔️  TATAKAE! TATAKAE! ⚔️",
      "",
      "    \"If you win, you live.",
      "     If you lose, you die.",
      "     If you don't fight, you can't win!\"",
      "",
      "    - Eren Yeager, Attack on Titan",
      "",
      "    🔥 Keep moving forward! 🔥"]
  | gear5 => [
      "    🌟 GEAR 5 ACTIVATED! 🌟",
      "",
      "         ⚡ ☀️ ⚡",
      "        ╔═══════════╗",
      "        ║  SUN GOD  ║",
      "        ║   NIKA    ║",
      "        ╚═══════════╝",
      "         ⚡ ☀️ ⚡",
      "",
      "    \"I'm the freest person in the world!\"",
      "",
      "    - Monkey D. Luffy, One Piece"]
  | bankai => [
      "    ⚡ BANKAI! ⚡",
      "",
      "        ╔═══════════════╗",
      "        ║   卍  解      ║",
      "        ║   BANKAI      ║",
      "        ╚═══════════════╝",
      "",
      "    \"Bankai: Tensa Zangetsu!\"",
      "",
      "    - Ichigo Kurosaki, Bleach",
      "",
      "    ⚔️  Spiritual pressure intensifies... ⚔️"]
  | makiZenin => [
      "    💚 heyyyy shorty",
      "",
      "         ⚔️  ✨  ⚔️",
      "        ╔═══════════╗",
      "        ║ MAKI-Zenin║",
      "        ╚═══════════╝",
      "         ⚔️  ✨  ⚔️",
      "",
      "    \"I'll show you what a Zenin without cursed energy can do!\"",
      "",
      "    - Maki Zenin, Jujutsu Kaisen",
      "",
      "    🔥 Heavenly Restriction Activated! 🔥"]

def output (s : Scene) : Output :=
  .element "easter_egg"
    (lines s.picture ++ s!"\n\nAchievement Unlocked: \"{s.achievement}\" 🎖️")
    [("name", .text s.name), ("achievement", .text s.achievement)]

end Scene

end Folio.Terminal
