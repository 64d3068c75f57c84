import SessionReplay.Recording.Options

/-!
# Devices

The devices that a context can emulate, in the order in which they are listed, each with the
settings it stands for.
-/

namespace SessionReplay

structure Device where
  name : Text
  userAgent : Text
  width : Nat
  height : Nat
  /-- The number of hundredths of a device pixel to a pixel of the page. -/
  scale : Nat
  /-- Whether it is a mobile device with a touch screen. -/
  isMobile : Bool
  browser : Browser

namespace Device

/-- The scale factor: a whole number as an integer, any other as a double. -/
def scaleFactor (device : Device) : Value :=
  if device.scale % 100 = 0 then .int (device.scale / 100 : Nat)
  else .float (Double.ofRatio false device.scale 100)

def settings (device : Device) : Options :=
  [("userAgent", .text device.userAgent),
    ("viewport", Options.toValue [("width", .int device.width), ("height", .int device.height)]),
    ("deviceScaleFactor", device.scaleFactor),
    ("isMobile", .bool device.isMobile),
    ("hasTouch", .bool device.isMobile),
    ("defaultBrowserType", .text device.browser.name)]

def catalog : List Device :=
  [{ name := "Desktop Chrome"
     userAgent := "Mozilla/5.0 (Windows NT 10.0; Win64; x64) AppleWebKit/537.36 (KHTML, like Gecko) Chrome/90.0.4421.0 Safari/537.36"
     width := 1280, height := 720, scale := 100, isMobile := false, browser := .chromium },
    { name := "Desktop Firefox"
      userAgent := "Mozilla/5.0 (Windows NT 10.0; Win64; x64; rv:89.0) Gecko/20100101 Firefox/89.0"
      width := 1280, height := 720, scale := 100, isMobile := false, browser := .firefox },
    { name := "Desktop Safari"
      userAgent := "Mozilla/5.0 (Macintosh; Intel Mac OS X 10_15_7) AppleWebKit/605.1.15 (KHTML, like Gecko) Version/14.1 Safari/605.1.15"
      width := 1280, height := 720, scale := 200, isMobile := false, browser := .webkit },
    { name := "iPad Mini"
      userAgent := "Mozilla/5.0 (iPad; CPU OS 11_0 like Mac OS X) AppleWebKit/604.1.34 (KHTML, like Gecko) Version/11.0 Mobile/15A5341f Safari/604.1"
      width := 768, height := 1024, scale := 200, isMobile := true, browser := .webkit },
    { name := "iPhone 11"
      userAgent := "Mozilla/5.0 (iPhone; CPU iPhone OS 14_4 like Mac OS X) AppleWebKit/605.1.15 (KHTML, like Gecko) Version/14.0.3 Mobile/15E148 Safari/604.1"
      width := 414, height := 715, scale := 200, isMobile := true, browser := .webkit },
    { name := "Pixel 5"
      userAgent := "Mozilla/5.0 (Linux; Android 11; Pixel 5) AppleWebKit/537.36 (KHTML, like Gecko) Chrome/90.0.4421.0 Mobile Safari/537.36"
      width := 393, height := 727, scale := 275, isMobile := true, browser := .chromium }]

def names : List Text := catalog.map name

def find? (wanted : Text) : Option Device := catalog.find? (·.name == wanted)

def unknownMessage (wanted : Text) : Text := "未知のデバイスです: " ++ wanted

end Device
end SessionReplay
