/-
  RecordTemplate.Text.Charset.GbkTable

  The characters that GBK and GB 18030 add to GB 2312, except for those that follow from
  an order, by the two bytes of their codes.
-/

import RecordTemplate.Text.Charset.Run

namespace RecordTemplate.Text.Charset

/-- Symbols, and replacements of characters of GB 2312. -/
def gbkRuns : List Run := [
  ⟨161, 164, "·"⟩,
  ⟨161, 170, "—"⟩,
  ⟨162, 161, "ⅰⅱⅲⅳⅴⅵⅶⅷⅸⅹ"⟩,
  ⟨166, 224, "︵︶︹︺︿﹀︽︾﹁﹂﹃﹄\ufffe\ufffe︻︼︷︸︱\ufffe︳︴"⟩,
  ⟨168, 64, "ˊˋ\u02d9–―‥‵℅℉↖↗↘↙∕∟∣≒≦≧⊿═║╒╓╔╕╖╗╘╙╚╛╜╝╞╟╠╡╢╣╤╥╦╧╨╩╪╫╬╭╮╯╰╱╲╳▁▂▃▄▅▆▇\ufffe█▉▊▋▌▍"⟩,
  ⟨168, 134, "▎▏▓▔▕▼▽◢◣◤◥☉⊕〒〝〞"⟩,
  ⟨168, 187, "ɑ\ufffeńň\ufffeɡ"⟩,
  ⟨169, 64, "〡〢〣〤〥〦〧〨〩㊣㎎㎏㎜㎝㎞㎡㏄㏎㏑㏒㏕︰￢￤\ufffe℡㈱\ufffe‐"⟩,
  ⟨169, 96, "ー\u309b\u309cヽヾ〆ゝゞ﹉﹊﹋﹌﹍﹎﹏﹐﹑﹒﹔﹕﹖﹗﹙﹚﹛﹜﹝﹞﹟﹠﹡\ufffe﹢﹣﹤﹥﹦﹨﹩﹪﹫"⟩,
  ⟨169, 150, "〇"⟩]

/-- Characters in place of private ones. -/
def gb18030Runs : List Run := [
  ⟨162, 227, "€"⟩,
  ⟨168, 191, "ǹ"⟩,
  ⟨169, 137, "〾⿰⿱⿲⿳⿴⿵⿶⿷⿸⿹⿺⿻"⟩,
  ⟨254, 80, "⺁"⟩,
  ⟨254, 84, "⺄㑳㑇⺈⺋\ufffe㖞㘚㘎⺌⺗㥮㤘\ufffe㧏㧟㩳㧐\ufffe\ufffe㭎㱮㳠⺧\ufffe\ufffe⺪䁖䅟⺮䌷⺳⺶⺷\ufffe䎱䎬⺻䏝䓖䙡䙌"⟩,
  ⟨254, 126, "\ufffe\ufffe䜣䜩䝼䞍⻊䥇䥺䥽䦂䦃䦅䦆䦟䦛䦷䦶\ufffe\ufffe䲣䲟䲠䲡䱷䲢䴓䴔䴕䴖䴗䴘䴙䶮"⟩]

/-- Ideographs for compatibility, behind the unified ones. -/
def gbkCompatibility : String :=
  "\uf92c\uf979\uf995\uf9e7\uf9f1\ufa0c\ufa0d﨎﨏﨑﨓﨔\ufa18﨟\ufa20﨡﨣﨤﨧﨨﨩"

end RecordTemplate.Text.Charset
